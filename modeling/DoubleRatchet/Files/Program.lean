import DoubleRatchet.Files.Tree

/-!
# Programs over files

A program that uses files is a value: a sequence of steps, each of which is answered before the next
one is chosen. It can be run on a tree or by the operating system, and what it leaves behind when it
stops between two steps, or when a step fails, can be stated.
-/

namespace DoubleRatchet

/-- A step that uses files, by the type of what it gives when it does not fail. -/
inductive FileStep : Type → Type 1
  /-- Fails if nothing stands there. -/
  | find (path : Path) : FileStep Unit
  | read (path : Path) : FileStep Bytes
  /-- Makes an empty file in a directory under a name of its own, and gives its path. -/
  | createTemp (directory : Path) : FileStep Path
  | write (path : Path) (content : Bytes) : FileStep Unit
  | rename (source target : Path) : FileStep Unit
  | remove (path : Path) : FileStep Unit

/-- A program that ends with a value of type `α`. -/
inductive FileProgram (α : Type) : Type 1
  | done (a : α)
  | step {β : Type} (step : FileStep β) (next : Except FileFault β → FileProgram α)

namespace FileProgram

variable {α β : Type}

/-- Runs a program, then a second one on its value. -/
def andThen : FileProgram α → (α → FileProgram β) → FileProgram β
  | done a, next => next a
  | step s rest, next => step s fun reply => (rest reply).andThen next

instance : Monad FileProgram where
  pure := done
  bind := andThen

/-- The program of one step, which ends with the reply. -/
def ask (s : FileStep α) : FileProgram (Except FileFault α) := step s done

/-- Puts a file in place as a whole. The content goes into a file of its own beside the target,
which is then renamed over it, so that the target never holds half of it. If that fails, the file
made for it is removed. -/
def replace (path : Path) (content : Bytes) : FileProgram (Except FileFault Unit) := do
  match ← ask (.createTemp path.directory) with
  | .error fault => return .error fault
  | .ok temp =>
    let reply ← match ← ask (.write temp content) with
      | .error fault => pure (.error fault)
      | .ok () => ask (.rename temp path)
    if let .error _ := reply then
      let _ ← ask (.remove temp)
    return reply

end FileProgram

namespace FileTree

variable {α β : Type}

/-- A step on a tree that gives nothing but the next tree. -/
def change (t : FileTree) : Except FileFault FileTree → Except FileFault Unit × FileTree
  | .ok next => (.ok (), next)
  | .error fault => (.error fault, t)

/-- The reply to a step, and the tree after it. -/
def perform (t : FileTree) : FileStep β → Except FileFault β × FileTree
  | .find path => (discard (t.lookUp path), t)
  | .read path => (t.read path, t)
  | .createTemp directory =>
    match t.createTemp directory with
    | .ok (path, next) => (.ok path, next)
    | .error fault => (.error fault, t)
  | .write path content => t.change (t.write path content)
  | .rename source target => t.change (t.rename source target)
  | .remove path => t.change (t.remove path)

/-- The value of a program run on a tree, and the tree it leaves. -/
def run (t : FileTree) : FileProgram α → α × FileTree
  | .done a => (a, t)
  | .step s next =>
    let (reply, after) := t.perform s
    after.run (next reply)

end FileTree

end DoubleRatchet
