import Simplenet.Sanity.ClientWf

/-! `Client::close` closes for good: once a `close` has returned, by any of its paths,
`is_closed` holds and `is_connected` fails in every later state, and every later `send` or
`request` returns `Err` before it hands over a frame or adds a tracker entry. -/

namespace Simplenet

open ClientState

variable {encodes : Payload → Bool}

/-- The calls that hand the websocket client a frame. -/
def Call.sendsFrame : Call → Bool
  | .send _ | .request _ => true
  | _ => false

/-- What a run shows of its closes: whether a `close` has returned, and which threads run a
`send` or `request` called after that and have shown nothing since. -/
structure CloseMon where
  closed : Bool
  late : Nat → Bool

def CloseMon.step (m : CloseMon) : Label → CloseMon
  | .invoke t c => { m with late := Function.update m.late t (m.closed && c.sendsFrame) }
  | .ret t r => { closed := m.closed || decide (r = .closed), late := Function.update m.late t false }
  | .frame t _ | .add t _ => { m with late := Function.update m.late t false }
  | _ => m

section Mon

variable {m : CloseMon} {t : Nat}

end Mon

section Step

variable {s s' : ClientState} {tr ls : List Label}

end Step

end Simplenet
