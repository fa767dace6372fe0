import AssetCache.Event
import AssetCache.Program
import AssetCache.Store.Proxy
import AssetCache.Store.State
import AssetCache.Url.Address

/-!
# Steps of the service

`Action` lists what the service does in one step, undivided: on its store, to the proxy behind it,
on the network, and in the log.  Between two steps of one operation, steps of others may come.
`Action.perform` says what a step does to the world and what it answers.

Nothing is assumed of the proxy or the network: each answers as a function of a state of its own.
-/

namespace AssetCache

/-- A blob that was verified, and the entry that it is to be. -/
structure Upload where
  kind : EntryKind
  hash : String
  blob : Bytes
  deriving DecidableEq, Repr

/-- One step. -/
inductive Action where
  /-- Look up a path. -/
  | lookup (path : String)
  /-- Mark a path as being written, perhaps only if there is no entry. -/
  | begin (path : String) (onlyIfAbsent : Bool)
  /-- End the writing of a path that is marked: store the blob and tell the proxy, or store
  nothing. -/
  | finish (path : String) (upload : Option Upload)
  /-- Store what came from the proxy. -/
  | fill (path : String) (blob : Bytes)
  /-- Ask the proxy whether it has an entry. -/
  | askProxy (kind : EntryKind) (hash : String) (size : Option Nat)
  /-- Ask the proxy for an entry. -/
  | openProxy (kind : EntryKind) (hash : String) (size : Option Nat)
  /-- Fetch a web address. -/
  | fetch (address : Url.WebAddress)
  /-- Tell of an event. -/
  | log (event : Event)

def Action.Answer : Action → Type
  | lookup _ => Option Bytes
  | begin _ _ => Admission
  | finish _ _ => Unit
  | fill _ _ => Unit
  | askProxy _ _ _ => Option BlobSize
  | openProxy _ _ _ => GetAnswer
  | fetch _ => Except FetchError FetchedBody
  | log _ => Unit

def Action.interface : Interface := ⟨Action, Action.Answer⟩

/-- An operation of the service, in steps. -/
abbrev Operation := Program Action.interface

/-- A network with states in `ν`: what it answers to a fetch. -/
structure Network (ν : Type) where
  get : Url.WebAddress → ν → Except FetchError FetchedBody × ν

/-- All that is outside of the store. -/
structure Surroundings (π ν : Type) where
  proxy : Proxy π
  network : Network ν

/-- The state of everything: the store, the proxy, the network, and the log so far. -/
structure World (π ν : Type) where
  store : Store
  proxy : π
  network : ν
  log : List Event

namespace Action

variable {π ν : Type}

/-- End the writing of a path. -/
def finishWrite (out : Surroundings π ν) (path : String) (upload : Option Upload)
    (w : World π ν) : World π ν :=
  match upload with
  | none => { w with store := w.store.release path }
  | some u =>
    { w with
      store := (w.store.insert path u.blob).release path
      proxy := out.proxy.put u.kind u.hash u.blob.length u.blob.length u.blob w.proxy }

/-- What a step answers, and the world after it. -/
def perform (out : Surroundings π ν) : (a : Action) → World π ν → a.Answer × World π ν
  | lookup path, w =>
    let r := w.store.lookup path
    (r.1, { w with store := r.2 })
  | begin path onlyIfAbsent, w =>
    let r := w.store.begin path onlyIfAbsent
    (r.1, { w with store := r.2 })
  | finish path upload, w => ((), finishWrite out path upload w)
  | fill path blob, w => ((), { w with store := w.store.insert path blob })
  | askProxy kind hash size, w =>
    let r := out.proxy.contains kind hash size w.proxy
    (r.1, { w with proxy := r.2 })
  | openProxy kind hash size, w =>
    let r := out.proxy.get kind hash size w.proxy
    (r.1, { w with proxy := r.2 })
  | fetch address, w =>
    let r := out.network.get address w.network
    (r.1, { w with network := r.2 })
  | log event, w => ((), { w with log := w.log ++ [event] })

/-- Whether a step ends a write: before it, the operation waits for a body. -/
def endsWrite : Action → Bool
  | finish _ _ => true
  | _ => false

end Action

namespace Operation

variable {π ν α : Type}

def act (a : Action) : Operation a.Answer := Program.call (I := Action.interface) a

/-- Run an operation with no other steps in between. -/
def run (out : Surroundings π ν) (op : Operation α) (w : World π ν) : α × World π ν :=
  Program.run (I := Action.interface) (Action.perform out) op w

/-- Run an operation up to the end of a write, or to its own end. -/
def runToWrite (out : Surroundings π ν) (op : Operation α) (w : World π ν) :
    Operation α × World π ν :=
  Program.advance (I := Action.interface) (Action.perform out) Action.endsWrite op w

/-- Abandon an operation where it stands.  One that has marked a path takes the mark away. -/
def abandon (out : Surroundings π ν) (op : Operation α) (w : World π ν) : World π ν :=
  match op with
  | .step (.finish path _) _ => Action.finishWrite out path none w
  | _ => w

end Operation

end AssetCache
