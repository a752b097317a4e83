import DoubleRatchet.Proofs.Conversation
import DoubleRatchet.Proofs.Primitives
import DoubleRatchet.Proofs.Turns

/-!
# Scripted conversations

A script is a list of calls on two sessions. Playing it computes the deeds and the sessions it
leads to, and what it computes is a run, whatever the script. `Sample` is a conversation between
two devices in the toy suite, small enough to be computed.
-/

namespace DoubleRatchet

variable {S : Suite}

namespace Conversation

/-- A call on one of two sessions: to send a plaintext, with some octets of entropy, or to receive
the envelope of the message that was sent as the `number`-th of the conversation. -/
inductive Call
  | send (side : Side) (entropy plaintext : Bytes)
  | deliver (side : Side) (number : Nat)

/-- Where a conversation stands. -/
structure Scene (S : Suite) where
  deeds : List (Deed S)
  now : Side → Session S

namespace Scene

/-- The envelopes sent by either side, in the order they were sent. -/
def envelopes (scene : Scene S) : List Envelope :=
  scene.deeds.reverse.filterMap fun
    | .sent _ t => some t.envelope
    | .received _ _ => none

def send (scene : Scene S) (side : Side) (entropy plaintext : Bytes) : Scene S :=
  let w : World ScriptedEntropy (Session S) := ⟨scene.now side, ⟨entropy⟩, []⟩
  match Session.encrypt plaintext w, Session.nextKey w with
  | .ok envelope v, .ok key _ =>
    ⟨.sent side ⟨envelope, plaintext, key, w.subject, v.subject⟩ :: scene.deeds,
      Function.update scene.now side v.subject⟩
  | _, _ => scene

def deliver (scene : Scene S) (side : Side) (envelope : Envelope) : Scene S :=
  let w : World Unit (Session S) := ⟨scene.now side, (), []⟩
  match Session.decrypt envelope w, (w.subject.messageKeyFor envelope.header).result with
  | .ok plaintext v, .ok (key, _) =>
    ⟨.received side ⟨envelope, plaintext, key, w.subject, v.subject⟩ :: scene.deeds,
      Function.update scene.now side v.subject⟩
  | _, _ => scene

/-- A call that fails, and a delivery of what was never sent, do nothing. -/
def perform (scene : Scene S) : Call → Scene S
  | .send side entropy plaintext => scene.send side entropy plaintext
  | .deliver side number =>
    match scene.envelopes[number]? with
    | some envelope => scene.deliver side envelope
    | none => scene

theorem run_send {start : Side → Session S} {scene : Scene S}
    (run : Run start scene.deeds scene.now) (side : Side) (entropy plaintext : Bytes) :
    Run start (scene.send side entropy plaintext).deeds
      (scene.send side entropy plaintext).now := by
  unfold send
  dsimp only
  split
  · rename_i sealed keyed
    exact .send run rfl sealed keyed
  · exact run

theorem run_deliver {start : Side → Session S} {scene : Scene S}
    (run : Run start scene.deeds scene.now) (side : Side) (envelope : Envelope) :
    Run start (scene.deliver side envelope).deeds (scene.deliver side envelope).now := by
  unfold deliver
  dsimp only
  split
  · rename_i opened keyed
    exact .receive run rfl opened keyed
  · exact run

theorem run_perform {start : Side → Session S} {scene : Scene S}
    (run : Run start scene.deeds scene.now) (call : Call) :
    Run start (scene.perform call).deeds (scene.perform call).now := by
  cases call with
  | send side entropy plaintext => exact run_send run side entropy plaintext
  | deliver side number =>
      unfold perform
      dsimp only
      split
      · exact run_deliver run side _
      · exact run

end Scene

/-- Where a script leads to. -/
def play (start : Side → Session S) (calls : List Call) : Scene S :=
  calls.foldl Scene.perform ⟨[], start⟩

/-- What a script computes is a run. -/
theorem run_play (start : Side → Session S) (calls : List Call) :
    Run start (play start calls).deeds (play start calls).now := by
  have general : ∀ scene : Scene S, Run start scene.deeds scene.now →
      Run start (calls.foldl Scene.perform scene).deeds (calls.foldl Scene.perform scene).now := by
    induction calls with
    | nil => exact fun _ run => run
    | cons call calls ih => exact fun _ run => ih _ (Scene.run_perform run call)
  exact general _ .start

end Conversation

/-! ## A conversation in the toy suite -/

namespace Sample

/-- A source of keys that repeat one octet each. -/
def keys (octets : Bytes) : ScriptedEntropy := ⟨octets.flatMap (List.replicate 32)⟩

/-- The responder's device, fresh. -/
def generated : Device .toy × World ScriptedEntropy Unit :=
  (Device.generate {}).outcome ⟨(), keys [1, 2], []⟩ (by decide +kernel)

/-- A bundle with two one-time prekeys. -/
def published : PrekeyBundle × World ScriptedEntropy (Device .toy) :=
  (Device.publish 2).outcome ⟨generated.1, keys [3, 4, 5], []⟩ (by decide +kernel)

/-- The responder's device after a rotation, when the bundle names the previous signed prekey. -/
def rotated : PrekeyBundle × World ScriptedEntropy (Device .toy) :=
  Device.rotate.outcome ⟨published.2.subject, keys [6], []⟩ (by decide +kernel)

/-- The initiator's device. -/
def visitor : Device .toy × World ScriptedEntropy Unit :=
  (Device.generate {}).outcome ⟨(), keys [7, 8], []⟩ (by decide +kernel)

/-- The session that the initiator starts from the bundle. -/
def initiated : (Session .toy × Handshake) × World ScriptedEntropy (Device .toy) :=
  (Device.initiate published.1).outcome ⟨visitor.1, keys [9], []⟩ (by decide +kernel)

/-- The session that the responder accepts. -/
def accepted : Session .toy × World Unit (Device .toy) :=
  (Device.accept initiated.1.2).outcome ⟨rotated.2.subject, (), []⟩ (by decide +kernel)

/-- The initiator's first two messages. -/
def first : Envelope × World ScriptedEntropy (Session .toy) :=
  (Session.encrypt [1]).outcome ⟨initiated.1.1, keys [], []⟩ (by decide +kernel)

def second : Envelope × World ScriptedEntropy (Session .toy) :=
  (Session.encrypt [2]).outcome ⟨first.2.subject, keys [], []⟩ (by decide +kernel)

/-- The responder's session when the second message has arrived and the first has not. -/
def opened : Bytes × World Unit (Session .toy) :=
  (Session.decrypt second.1).outcome ⟨accepted.1, (), []⟩ (by decide +kernel)

/-- The sessions of the two devices. -/
def start : Side → Session .toy
  | .initiator => initiated.1.1
  | .responder => accepted.1

/-- Two messages, of which the second arrives; an answer; and the start of a new chain. -/
def script : List Conversation.Call :=
  [.send .initiator [] [1], .send .initiator [] [2], .deliver .responder 1,
    .send .responder (keys [10]).rest [3], .deliver .initiator 2,
    .send .initiator (keys [11]).rest [4], .deliver .responder 3]

/-- What the script leads to. -/
def scene : Conversation.Scene .toy := Conversation.play start script

/-- The responder's device from its making to the rotation. -/
theorem offered : Device.Life rotated.2.subject [.returned published.1, .returned rotated.1] := by
  have made : Device.Life generated.1 [] :=
    .generated (σ := ScriptedEntropy) (τ := Unit) (Action.eq_outcome (Device.generate {}) _ _)
  have offers : Device.Turn generated.1 [.returned published.1] published.2.subject :=
    .published (w := ⟨generated.1, keys [3, 4, 5], []⟩) (Action.eq_outcome (Device.publish 2) _ _)
  have rotates : Device.Turn published.2.subject [.returned rotated.1] rotated.2.subject :=
    .rotated (w := ⟨published.2.subject, keys [6], []⟩) (Action.eq_outcome Device.rotate _ _)
  exact (made.turned offers).turned rotates

theorem history : Device.History rotated.2.subject [rotated.1, published.1] := offered.history

/-- What the responder's device returned and accepted. -/
def record : List Device.Entry :=
  [.returned published.1, .returned rotated.1, .accepted initiated.1.2]

/-- The responder's device from its making to the handshake. -/
theorem life : Device.Life accepted.2.subject record := by
  have accepts : Device.Turn rotated.2.subject [.accepted initiated.1.2] accepted.2.subject :=
    .accepted (w := ⟨rotated.2.subject, (), []⟩)
      (Action.eq_outcome (Device.accept initiated.1.2) _ _)
  exact offered.turned accepts

end Sample

end DoubleRatchet
