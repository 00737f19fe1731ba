import Templating.Tape

/-!
# Sources

A source hands out its bytes call by call, as many as it likes each time, and
may be interrupted in between. `Source.pull` asks until it has as many bytes as
it wants: what it gets does not depend on how the source cuts its replies.
-/

namespace Templating

/-- What a source does on one call. -/
inductive Reply where
  | interrupted
  /-- It hands out so many bytes at most. -/
  | upTo (size : Nat) (pos : 0 < size)

structure Source where
  unread : Tape
  /-- The replies to the next calls. Later calls get all they ask for. -/
  replies : List Reply
  /-- Whether the source fails after its last byte, instead of ending there. -/
  fails : Bool

/-- Why no more bytes are asked for. -/
inductive PullStatus where
  | enough | ended | failed
  deriving DecidableEq

structure Pulled where
  bytes : Bytes
  status : PullStatus
  source : Source

namespace Source

def ofBytes (bytes : Bytes) : Source := ⟨.ofBytes bytes, [], false⟩

/-- The status at the end of the bytes. -/
def ending (fails : Bool) : PullStatus := if fails then .failed else .ended

/-- Calls answered by `replies`, until `room` bytes have come. -/
def pullFrom (fails : Bool) (room : Nat) (unread : Tape) : List Reply → Pulled
  | [] =>
    if room ≤ unread.length then ⟨unread.take room, .enough, ⟨unread.drop room, [], fails⟩⟩
    else ⟨unread.bytes, ending fails, ⟨.empty, [], fails⟩⟩
  | reply :: replies =>
    if room = 0 then ⟨[], .enough, ⟨unread, reply :: replies, fails⟩⟩
    else match reply with
      | .interrupted => pullFrom fails room unread replies
      | .upTo size _ =>
        if unread.isEmpty then ⟨[], ending fails, ⟨.empty, replies, fails⟩⟩
        else
          let got := unread.take (min size room)
          let more := pullFrom fails (room - got.length) (unread.drop (min size room)) replies
          { more with bytes := got ++ more.bytes }

/-- **Up to `room` bytes**: fewer only if the source ends or fails before. -/
def pull (s : Source) (room : Nat) : Pulled := pullFrom s.fails room s.unread s.replies

end Source

end Templating
