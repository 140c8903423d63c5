import HintLine.Hint.Bucket
import HintLine.Message.Outlet

/-!
The collector keeps, for each buffer, the hints of the latest response and the greatest request number that a
response came with. A response replaces the bucket of its buffer as a whole, also when it is an error, so that
nobody sees a mixture of two responses or hints of before a failure. A response to an older request than one
answered already is dropped, and nothing is kept for a buffer that is no longer open.
-/

set_option autoImplicit false

namespace HintLine

/-- What is kept. -/
structure Collector where
  hints : Table Ident Bucket
  applied : Table Ident Int

namespace Collector

/-- What the collector asks about its surroundings: which buffers are open, which clients give hints, whether
errors are reported to the user, and where such reports go. -/
structure Surroundings where
  isOpen : Ident → Bool
  supports : Ident → Bool
  notifies : Bool
  outlet : Option Message.Outlet

def new : Collector := ⟨Table.empty, Table.empty⟩

/-- The bucket of a buffer, if a response came for it. -/
def bucket? (c : Collector) (buffer : Ident) : Option Bucket := c.hints.get? buffer

def lineHints (c : Collector) (buffer : Ident) (line : Int) : List Hint :=
  match c.bucket? buffer with
  | none => []
  | some b => b.line line

/-- Whether an answer to a newer request came before. Without a number there is no way to tell. -/
def isOutdated (c : Collector) (r : Response) : Bool :=
  match r.request, c.applied.get? r.buffer with
  | some n, some last => n < last
  | _, _ => false

/-- Keeps a bucket, and the number of the request if there is one. -/
def store (c : Collector) (r : Response) (b : Bucket) : Collector where
  hints := c.hints.insert r.buffer b
  applied :=
    match r.request with
    | some n => c.applied.insert r.buffer n
    | none => c.applied

def forget (c : Collector) (buffer : Ident) : Collector :=
  ⟨c.hints.erase buffer, c.applied.erase buffer⟩

/-- The bucket that an answer stands for. An error, an answer without hints and one of a client that does not
give hints stand for the empty bucket. -/
def bucketOf {σ : Type} (env : Surroundings) (r : Response) : Act σ Bucket := do
  match r.error, r.result with
  | some message, _ =>
    Act.log .debug s!"Inlay hint request for buffer {r.buffer.text} failed: {message}"
    if env.notifies then Message.send env.outlet s!"Inlay hints: {message}" .error
    return Table.empty
  | none, none =>
    Act.log .trace s!"No inlay hints result for buffer {r.buffer.text}"
    return Table.empty
  | none, some inlays =>
    if r.client = .absent || !env.supports r.client then
      Act.log .trace s!"Client {r.client.text} doesn't provide inlay hints"
      return Table.empty
    else return Bucket.ofInlays inlays

def requestText : Option Int → String
  | some n => toString n
  | none => Ident.absent.text

def receive (env : Surroundings) (r : Response) : Act Collector Unit := do
  if r.buffer = .absent then Act.log .debug "Inlay hint response without buffer, ignore it"
  else if !env.isOpen r.buffer then
    Act.log .trace s!"Buffer {r.buffer.text} is not valid anymore, drop its hints"
    Act.modify (forget · r.buffer)
  else if (← Act.get).isOutdated r then
    Act.log .trace s!"Drop outdated inlay hint response {requestText r.request} for buffer {r.buffer.text}"
  else
    let b ← bucketOf env r
    Act.modify (store · r b)
    Act.log .trace s!"Inlay hints of buffer {r.buffer.text} updated, {b.keys.length} lines"

end Collector

end HintLine
