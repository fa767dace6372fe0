import AssetCache.Proofs.Store.Steps

/-!
# What the proxy is told, and what is fetched

The surroundings of a store change their states as they like, so that nothing can be read off these
states.  Surroundings that take notes (`Surroundings.noting`) answer as they did, and keep next to
their states what the proxy was told and which addresses were fetched.  The same can be read off a
history: `notices` and `addresses`.

Results:
1. `Operation.run_noting`: an operation runs as it does where no notes are taken, and the notes are
   those of its history.
-/

namespace AssetCache

variable {π ν α : Type}

/-- What a proxy is told of an entry that was stored. -/
structure Notice where
  kind : EntryKind
  hash : String
  /-- The size of the entry. -/
  logical : Nat
  /-- The octets that it takes up. -/
  onDisk : Nat
  blob : Bytes
  deriving DecidableEq, Repr

/-! ## Notes of a history -/

/-- What a step tells the proxy. -/
def Action.notices : Action → List Notice
  | finish _ (some u) => [⟨u.kind, u.hash, u.blob.length, u.blob.length, u.blob⟩]
  | _ => []

/-- What a step fetches. -/
def Action.addresses : Action → List Url.WebAddress
  | fetch address => [address]
  | _ => []

/-- What the proxy is told in a history, in order. -/
def notices (t : List Action.interface.Exchange) : List Notice :=
  t.flatMap fun e => Action.notices e.1

/-- What is fetched in a history, in order. -/
def addresses (t : List Action.interface.Exchange) : List Url.WebAddress :=
  t.flatMap fun e => Action.addresses e.1

/-! ## Surroundings that take notes -/

/-- A proxy that also keeps what it is told. -/
def Proxy.noting (p : Proxy π) : Proxy (π × List Notice) where
  contains kind hash size s :=
    let r := p.contains kind hash size s.1
    (r.1, r.2, s.2)
  get kind hash size s :=
    let r := p.get kind hash size s.1
    (r.1, r.2, s.2)
  put kind hash logical onDisk blob s :=
    (p.put kind hash logical onDisk blob s.1, s.2 ++ [⟨kind, hash, logical, onDisk, blob⟩])

/-- A network that also keeps what is fetched. -/
def Network.noting (n : Network ν) : Network (ν × List Url.WebAddress) where
  get address s :=
    let r := n.get address s.1
    (r.1, r.2, s.2 ++ [address])

def Surroundings.noting (out : Surroundings π ν) :
    Surroundings (π × List Notice) (ν × List Url.WebAddress) :=
  ⟨out.proxy.noting, out.network.noting⟩

/-- A world with notes next to the states of the proxy and the network. -/
def World.noted (w : World π ν) (told : List Notice) (asked : List Url.WebAddress) :
    World (π × List Notice) (ν × List Url.WebAddress) :=
  ⟨w.store, (w.proxy, told), (w.network, asked), w.log⟩

theorem Action.perform_noting (out : Surroundings π ν) (a : Action) (w : World π ν)
    (told : List Notice) (asked : List Url.WebAddress) :
    a.perform out.noting (w.noted told asked) =
      ((a.perform out w).1,
        (a.perform out w).2.noted (told ++ a.notices) (asked ++ a.addresses)) := by
  cases a with
  | finish path upload =>
    cases upload with
    | none =>
      simp only [notices, addresses, List.append_nil]
      rfl
    | some u =>
      simp only [addresses, List.append_nil]
      rfl
  | fetch address =>
    simp only [notices, List.append_nil]
    rfl
  | _ =>
    simp only [notices, addresses, List.append_nil]
    rfl

/-- To take notes of an operation is to run it, and to read the notes off its history. -/
theorem Operation.run_noting (out : Surroundings π ν) (op : Operation α) (w : World π ν)
    (told : List Notice) (asked : List Url.WebAddress) :
    op.run out.noting (w.noted told asked) =
      ((op.run out w).1,
        (op.run out w).2.noted (told ++ notices (op.history out w))
          (asked ++ addresses (op.history out w))) := by
  induction op generalizing w told asked with
  | done a =>
    show (a, w.noted told asked) = (a, w.noted (told ++ []) (asked ++ []))
    rw [List.append_nil, List.append_nil]
  | step a next ih =>
    have hstep := Action.perform_noting out a w told asked
    have hnext := ih (Action.perform out a w).1 (Action.perform out a w).2
      (told ++ Action.notices a) (asked ++ Action.addresses a)
    rw [List.append_assoc, List.append_assoc] at hnext
    refine Eq.trans ?_ hnext
    show Operation.run out.noting (next (Action.perform out.noting a _).1)
      (Action.perform out.noting a _).2 = _
    rw [hstep]

end AssetCache
