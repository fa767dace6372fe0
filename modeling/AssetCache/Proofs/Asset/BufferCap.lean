import AssetCache.Asset.Resolver
import AssetCache.Proofs.Store.Verification

/-!
# The cap on what is read into memory

A body is refused for its size if it is declared to be over the cap, or if more octets than the cap
come; of these one is read beyond the cap, and a failure behind it is not met.  What is not refused
so is read to its end, and then it matters whether it failed, and last whether it is as long as it
was declared to be.

Results:
1. `fill_eq_read`, `length_le_of_mem_fill`: what comes of a buffer, and what it holds at most.
2. `bufferBody_eq`: the chunks that a body comes in do not matter to what it comes to.
3. `bufferBody_eq_iff`: what a body comes to, by its octets, how it ends, its declared length and
   the cap.
4. `cap_exact`: this, and that no more than one octet beyond the cap is ever held.
-/

namespace AssetCache

variable {body : Reader} {limit : Nat} {cap declared : Option Nat}

/-! ## Buffers -/

namespace Reader

variable {failure : Option String} {held buffer : Bytes} {chunks : List Bytes}

/-- Once a buffer is full, it stays as it is. -/
theorem fillFrom_of_full (hfull : limit ≤ held.length) :
    fillFrom (some limit) failure held chunks = ([held], .ok held) := by
  cases chunks with
  | nil => simp [fillFrom, hfull]
  | cons chunk rest => simp [fillFrom, hfull]

theorem fillFrom_cons_of_room (chunk : Bytes) (rest : List Bytes) (hroom : held.length < limit) :
    fillFrom (some limit) failure held (chunk :: rest) =
      let later :=
        fillFrom (some limit) failure (held ++ chunk.take (limit - held.length)) rest
      (held :: later.1, later.2) := by
  have hany : ¬ (some limit).any (· ≤ held.length) = true := by simpa using hroom
  rw [fillFrom, if_neg hany]
  rfl

/-- A chunk that there is no room for fills the buffer. -/
theorem length_append_taken {chunk : Bytes} (hcut : limit - held.length ≤ chunk.length)
    (h : held.length ≤ limit) :
    (held ++ chunk.take (limit - held.length)).length = limit := by
  rw [List.length_append, List.length_take_of_le hcut]
  exact Nat.add_sub_cancel' h

theorem length_le_of_mem_fillFrom (h : held.length ≤ limit)
    (hmem : buffer ∈ (fillFrom (some limit) failure held chunks).1) : buffer.length ≤ limit := by
  induction chunks generalizing held with
  | nil => exact List.mem_singleton.1 hmem ▸ h
  | cons chunk rest ih =>
    rcases Nat.lt_or_ge held.length limit with hroom | hfull
    · rw [fillFrom_cons_of_room chunk rest hroom] at hmem
      rcases List.mem_cons.1 hmem with rfl | hlater
      · exact h
      · refine ih ?_ hlater
        rw [List.length_append, List.length_take]
        omega
    · rw [fillFrom_of_full hfull] at hmem
      exact List.mem_singleton.1 hmem ▸ h

/-- A buffer never holds more than it has room for. -/
theorem length_le_of_mem_fill (hmem : buffer ∈ (body.fill (some limit)).1) :
    buffer.length ≤ limit :=
  length_le_of_mem_fillFrom (List.length_nil ▸ Nat.zero_le limit) hmem

/-- Whatever a buffer holds stands at the front of what it is filled from. -/
theorem prefix_of_mem_fillFrom
    (hmem : buffer ∈ (fillFrom (some limit) failure held chunks).1) :
    buffer <+: held ++ chunks.flatten := by
  induction chunks generalizing held with
  | nil => exact List.mem_singleton.1 hmem ▸ List.prefix_append ..
  | cons chunk rest ih =>
    rcases Nat.lt_or_ge held.length limit with hroom | hfull
    · rw [fillFrom_cons_of_room chunk rest hroom] at hmem
      rcases List.mem_cons.1 hmem with rfl | hlater
      · exact List.prefix_append ..
      · rw [List.flatten_cons, ← List.append_assoc]
        rcases Nat.le_total chunk.length (limit - held.length) with hall | hcut
        · rw [List.take_of_length_le hall] at hlater
          exact ih hlater
        · have hlength := length_append_taken hcut (Nat.le_of_lt hroom)
          rw [fillFrom_of_full (Nat.le_of_eq hlength.symm)] at hlater
          rw [List.mem_singleton.1 hlater, List.append_assoc, List.prefix_append_right_inj]
          exact (List.take_prefix ..).trans (List.prefix_append ..)
    · rw [fillFrom_of_full hfull] at hmem
      exact List.mem_singleton.1 hmem ▸ List.prefix_append ..

/-- What comes of a buffer is what it holds last. -/
theorem getLast?_fillFrom {cap : Option Nat}
    (h : (fillFrom cap failure held chunks).2 = .ok buffer) :
    (fillFrom cap failure held chunks).1.getLast? = some buffer := by
  induction chunks generalizing held with
  | nil =>
    unfold fillFrom at h ⊢
    dsimp only at h
    split at h
    next => exact congrArg some (Except.ok.inj h)
    next =>
      cases failure with
      | none => exact congrArg some (Except.ok.inj h)
      | some reason => exact nomatch h
  | cons chunk rest ih =>
    unfold fillFrom at h ⊢
    split at h
    next hfull =>
      rw [if_pos hfull]
      exact congrArg some (Except.ok.inj h)
    next hroom =>
      rw [if_neg hroom, List.getLast?_cons, ih h]
      rfl

/-- The chunks themselves do not matter to who reads them. -/
theorem read_congr {other : Reader} (hbytes : body.bytes = other.bytes)
    (hfailure : body.failure = other.failure) : body.read limit = other.read limit := by
  unfold read readAll
  rw [hbytes, hfailure]

/-- Nothing is read of the chunks that follow once there are octets enough. -/
theorem read_of_full (hfull : held.length = limit) :
    (⟨held :: chunks, failure⟩ : Reader).read limit = .ok held := by
  have hbytes : (⟨held :: chunks, failure⟩ : Reader).bytes = held ++ chunks.flatten := rfl
  unfold read
  rw [hbytes, ← hfull, List.take_left, if_pos]
  rw [List.length_append]
  exact Nat.le_add_right _ _

/-- Filling goes on as if what is held had come in one chunk. -/
theorem fillFrom_eq (failure : Option String) (held : Bytes) (chunks : List Bytes)
    (h : held.length ≤ limit) :
    (fillFrom (some limit) failure held chunks).2 =
      (⟨held :: chunks, failure⟩ : Reader).read limit := by
  induction chunks generalizing held with
  | nil =>
    have hbytes : (⟨[held], failure⟩ : Reader).bytes = held := List.append_nil held
    rcases Nat.lt_or_ge held.length limit with hroom | hfull
    · have hany : ¬ (some limit).any (· ≤ held.length) = true := by simpa using hroom
      unfold fillFrom read readAll
      rw [hbytes, if_neg hany, if_neg (Nat.not_le_of_lt hroom)]
    · rw [fillFrom_of_full hfull, read_of_full (Nat.le_antisymm h hfull)]
  | cons chunk rest ih =>
    rcases Nat.lt_or_ge held.length limit with hroom | hfull
    · rw [fillFrom_cons_of_room chunk rest hroom]
      dsimp only
      rcases Nat.le_total chunk.length (limit - held.length) with hall | hcut
      · rw [List.take_of_length_le hall, ih _ (by rw [List.length_append]; omega)]
        exact read_congr (List.append_assoc ..) rfl
      · -- The chunk fills the buffer; what is left of it stands with the chunks that follow.
        have hlength := length_append_taken hcut h
        have hsplit : (⟨held :: chunk :: rest, failure⟩ : Reader).bytes =
            (⟨(held ++ chunk.take (limit - held.length)) ::
              chunk.drop (limit - held.length) :: rest, failure⟩ : Reader).bytes := by
          simp only [bytes, List.flatten_cons, List.append_assoc]
          rw [← List.append_assoc (chunk.take _), List.take_append_drop]
        rw [fillFrom_of_full (Nat.le_of_eq hlength.symm), read_congr hsplit rfl,
          read_of_full hlength]
    · rw [fillFrom_of_full hfull, read_of_full (Nat.le_antisymm h hfull)]

/-- What comes of a buffer is what is read of the body. -/
theorem fill_eq_read : (body.fill (some limit)).2 = body.read limit :=
  fillFrom_eq body.failure [] body.chunks (Nat.zero_le limit)

theorem fillFrom_none (failure : Option String) (held : Bytes) (chunks : List Bytes) :
    (fillFrom none failure held chunks).2 = (⟨held :: chunks, failure⟩ : Reader).readAll := by
  induction chunks generalizing held with
  | nil =>
    unfold fillFrom readAll bytes
    rw [List.flatten_cons, List.flatten_nil, List.append_nil]
    rfl
  | cons chunk rest ih =>
    have hbytes : (⟨(held ++ chunk) :: rest, failure⟩ : Reader).bytes =
        (⟨held :: chunk :: rest, failure⟩ : Reader).bytes := List.append_assoc ..
    refine (ih (held ++ chunk)).trans ?_
    unfold readAll
    rw [hbytes]

/-- Without a limit a body is read to its end. -/
theorem fill_eq_readAll : (body.fill none).2 = body.readAll :=
  fillFrom_none body.failure [] body.chunks

end Reader

namespace Resolver

/-! ## Reading under a cap -/

/-- The chunks that a body comes in do not matter to what it comes to. -/
theorem bufferBody_eq (cap declared : Option Nat) (body : Reader) :
    bufferBody cap declared body =
      match cap with
      | none =>
        match body.readAll with
        | .error reason => .error (.read reason)
        | .ok blob => checkDeclared declared blob
      | some limit =>
        if declared.any (limit < ·) then .error (.tooLarge limit)
        else
          match body.read (Reader.oneMore limit) with
          | .error reason => .error (.read reason)
          | .ok blob =>
            if limit < blob.length then .error (.tooLarge limit)
            else checkDeclared declared blob := by
  unfold bufferBody buffering
  cases cap with
  | none =>
    dsimp only
    rewrite [Reader.fill_eq_readAll]
    cases body.readAll with
    | error reason => rfl
    | ok blob => rfl
  | some limit =>
    dsimp only
    rewrite [Reader.fill_eq_read]
    split
    next => rfl
    next => rfl

/-- Under a cap, what is held of a body is its first octets, and at most one more than allowed. -/
theorem held_of_mem_buffering {buffer : Bytes}
    (hmem : buffer ∈ (buffering (some limit) declared body).1) :
    buffer <+: body.bytes ∧ buffer.length ≤ limit + 1 := by
  unfold buffering at hmem
  dsimp only at hmem
  split at hmem
  next => exact nomatch hmem
  next =>
    exact ⟨Reader.prefix_of_mem_fillFrom hmem,
      Nat.le_trans (Reader.length_le_of_mem_fill hmem) (Nat.min_le_left _ _)⟩

theorem checkDeclared_iff {declared : Option Nat} {found blob : Bytes} :
    checkDeclared declared found = .ok blob ↔
      found = blob ∧ ∀ n, declared = some n → n = blob.length := by
  unfold checkDeclared
  cases declared with
  | none => simp
  | some n =>
    dsimp only
    split
    next hn =>
      constructor
      · intro h
        obtain rfl := Except.ok.inj h
        exact ⟨rfl, fun m hm => (Option.some.inj hm).symm.trans hn⟩
      · rintro ⟨rfl, -⟩
        rfl
    next hn => exact ⟨nofun, fun ⟨hfound, hall⟩ => absurd (hfound ▸ hall n rfl) hn⟩

/-- A body that is accepted is what the buffer holds last. -/
theorem getLast?_buffering {blob : Bytes} (h : bufferBody cap declared body = .ok blob) :
    (buffering cap declared body).1.getLast? = some blob := by
  unfold bufferBody at h
  unfold buffering at h ⊢
  cases cap with
  | none =>
    dsimp only at h ⊢
    split at h
    next => exact nomatch h
    next found hfilled =>
      obtain ⟨rfl, -⟩ := checkDeclared_iff.1 h
      exact Reader.getLast?_fillFrom hfilled
  | some limit =>
    dsimp only at h ⊢
    split at h
    next => exact nomatch h
    next hnot =>
      rw [if_neg hnot]
      dsimp only at h
      split at h
      next => exact nomatch h
      next found hfilled =>
        split at h
        next => exact nomatch h
        next =>
          obtain ⟨rfl, -⟩ := checkDeclared_iff.1 h
          exact Reader.getLast?_fillFrom hfilled

/-! ## What a body comes to -/

/-- A body is not refused for its size, neither for the declared one nor for its own. -/
def Fits (cap declared : Option Nat) (body : Reader) : Prop :=
  ∀ limit, cap = some limit →
    (∀ n, declared = some n → n ≤ limit) ∧ body.bytes.length ≤ limit

/-- What a body comes to that is read into memory. -/
inductive Capped (cap declared : Option Nat) (body : Reader) : Attempt Bytes → Prop
  /-- It is declared to be over the cap, or it is, whatever follows. -/
  | tooLarge (limit : Nat) (hcap : cap = some limit)
    (hover : (∃ n, declared = some n ∧ limit < n) ∨ limit < body.bytes.length) :
    Capped cap declared body (.error (.tooLarge limit))
  /-- It fits, and fails. -/
  | failed (reason : String) (hfits : Fits cap declared body)
    (hfails : body.failure = some reason) :
    Capped cap declared body (.error (.read reason))
  /-- It fits and ends, and has not the length that was declared. -/
  | truncated (n : Nat) (hfits : Fits cap declared body) (hends : body.failure = none)
    (hdeclared : declared = some n) (hother : n ≠ body.bytes.length) :
    Capped cap declared body (.error (.truncated n body.bytes.length))
  /-- It fits and ends, with the length that was declared, if one was. -/
  | whole (hfits : Fits cap declared body) (hends : body.failure = none)
    (hdeclared : ∀ n, declared = some n → n = body.bytes.length) :
    Capped cap declared body (.ok body.bytes)

theorem any_lt_iff : declared.any (limit < ·) = true ↔ ∃ n, declared = some n ∧ limit < n := by
  cases declared <;> simp

theorem bufferBody_of_over (hshort : body.Short)
    (hover : (∃ n, declared = some n ∧ limit < n) ∨ limit < body.bytes.length) :
    bufferBody (some limit) declared body = .error (.tooLarge limit) := by
  rw [bufferBody_eq]
  dsimp only
  split
  next => rfl
  next hnot =>
    have hlong : limit < body.bytes.length :=
      hover.resolve_left fun hdeclared => hnot (any_lt_iff.2 hdeclared)
    have hlength : (body.bytes.take (limit + 1)).length = limit + 1 :=
      List.length_take_of_le hlong
    rw [Reader.read_oneMore_of_lt hshort hlong]
    dsimp only
    rw [hlength, if_pos (Nat.lt_succ_self limit)]

/-- A body that fits is read to its end. -/
theorem bufferBody_of_fits (hshort : body.Short) (hfits : Fits cap declared body) :
    bufferBody cap declared body =
      match body.failure with
      | some reason => .error (.read reason)
      | none => checkDeclared declared body.bytes := by
  rw [bufferBody_eq]
  cases cap with
  | none =>
    dsimp only
    rw [Reader.readAll]
    cases body.failure with
    | some reason => rfl
    | none => rfl
  | some limit =>
    obtain ⟨hdeclared, hlength⟩ := hfits limit rfl
    have hnot : ¬ declared.any (limit < ·) = true := by
      rintro hany
      obtain ⟨n, hn, hover⟩ := any_lt_iff.1 hany
      exact Nat.not_le_of_lt hover (hdeclared n hn)
    dsimp only
    rw [if_neg hnot, Reader.read_oneMore hshort hlength, Reader.readAll]
    cases body.failure with
    | some reason => rfl
    | none => exact if_neg (Nat.not_lt_of_le hlength)

theorem over_or_fits (cap declared : Option Nat) (body : Reader) :
    (∃ limit, cap = some limit ∧
        ((∃ n, declared = some n ∧ limit < n) ∨ limit < body.bytes.length)) ∨
      Fits cap declared body := by
  cases cap with
  | none => exact .inr nofun
  | some limit =>
    by_cases hover : (∃ n, declared = some n ∧ limit < n) ∨ limit < body.bytes.length
    · exact .inl ⟨limit, rfl, hover⟩
    · obtain ⟨hdeclared, hlength⟩ := not_or.1 hover
      refine .inr fun limit' hlimit => ?_
      obtain rfl := Option.some.inj hlimit
      exact ⟨fun n hn => Nat.le_of_not_lt fun hlt => hdeclared ⟨n, hn, hlt⟩,
        Nat.le_of_not_lt hlength⟩

/-- What a body comes to is told by its octets, by how it ends and by its declared length. -/
theorem bufferBody_eq_iff (hshort : body.Short) {result : Attempt Bytes} :
    bufferBody cap declared body = result ↔ Capped cap declared body result := by
  constructor
  · rintro rfl
    rcases over_or_fits cap declared body with ⟨limit, rfl, hover⟩ | hfits
    · exact bufferBody_of_over hshort hover ▸ .tooLarge limit rfl hover
    · rw [bufferBody_of_fits hshort hfits]
      cases hend : body.failure with
      | some reason => exact .failed reason hfits hend
      | none =>
        dsimp only
        unfold checkDeclared
        cases declared with
        | none => exact .whole hfits hend nofun
        | some n =>
          dsimp only
          split
          next hlength =>
            exact .whole hfits hend fun m hm => (Option.some.inj hm).symm.trans hlength
          next hother => exact .truncated n hfits hend rfl hother
  · intro h
    cases h with
    | tooLarge limit hcap hover => exact hcap ▸ bufferBody_of_over hshort hover
    | failed reason hfits hfails => rw [bufferBody_of_fits hshort hfits, hfails]
    | truncated n hfits hends hdeclared hother =>
      rw [bufferBody_of_fits hshort hfits, hends, hdeclared]
      exact if_neg hother
    | whole hfits hends hdeclared =>
      rw [bufferBody_of_fits hshort hfits, hends]
      cases declared with
      | none => rfl
      | some n => exact if_pos (hdeclared n rfl)

theorem fits_of_whole (hcap : ∀ limit, cap = some limit → body.bytes.length ≤ limit)
    (hdeclared : ∀ n, declared = some n → n = body.bytes.length) : Fits cap declared body :=
  fun limit hlimit => ⟨fun n hn => hdeclared n hn ▸ hcap limit hlimit, hcap limit hlimit⟩

/-- A body is read into memory if it ends, keeps to the cap and is as long as was declared, and then
all of it is. -/
theorem bufferBody_ok_iff (hshort : body.Short) {blob : Bytes} :
    bufferBody cap declared body = .ok blob ↔
      body.failure = none ∧ blob = body.bytes ∧
        (∀ limit, cap = some limit → body.bytes.length ≤ limit) ∧
        ∀ n, declared = some n → n = body.bytes.length := by
  rw [bufferBody_eq_iff hshort]
  constructor
  · intro h
    cases h with
    | whole hfits hends hdeclared =>
      exact ⟨hends, rfl, fun limit hcap => (hfits limit hcap).2, hdeclared⟩
  · rintro ⟨hends, rfl, hcap, hdeclared⟩
    exact .whole (fits_of_whole hcap hdeclared) hends hdeclared

theorem readAll_of_bufferBody (hshort : body.Short) {blob : Bytes}
    (h : bufferBody cap declared body = .ok blob) : body.readAll = .ok blob := by
  obtain ⟨hends, rfl, -⟩ := (bufferBody_ok_iff hshort).1 h
  unfold Reader.readAll
  rw [hends]

/-! ## The cap -/

/-- The cap decides exactly what is read into memory, and how much of it is ever held. -/
structure CapExact (cap declared : Option Nat) (body : Reader) : Prop where
  /-- What is read is all of the body, which ends, keeps to the cap and is as long as declared. -/
  accepts : ∀ blob, bufferBody cap declared body = .ok blob ↔
    body.failure = none ∧ blob = body.bytes ∧
      (∀ limit, cap = some limit → body.bytes.length ≤ limit) ∧
      ∀ n, declared = some n → n = body.bytes.length
  /-- What any body comes to, and for what reason it is refused. -/
  decides : ∀ result, bufferBody cap declared body = result ↔ Capped cap declared body result
  /-- On the way no buffer holds more than one octet over the cap, or anything but the first octets
  of the body. -/
  retains : ∀ limit, cap = some limit → ∀ held ∈ (buffering cap declared body).1,
    held <+: body.bytes ∧ held.length ≤ limit + 1
  /-- What is accepted is what the buffer holds at last. -/
  last : ∀ blob, bufferBody cap declared body = .ok blob →
    (buffering cap declared body).1.getLast? = some blob

/-- For every cap, every declared length and every body, in whatever chunks it comes. -/
theorem cap_exact (cap declared : Option Nat) {body : Reader} (hshort : body.Short) :
    CapExact cap declared body where
  accepts _ := bufferBody_ok_iff hshort
  decides _ := bufferBody_eq_iff hshort
  retains _ hcap := by
    subst hcap
    exact fun _ hmem => held_of_mem_buffering hmem
  last _ := getLast?_buffering

/-- A body that fails behind its fifth octet is too large for four, and is read for five. -/
theorem cap_exact_of_failing_body :
    let body : Reader := ⟨[[104, 101], [], [108, 108, 111]], some "reset"⟩
    body.Short ∧ CapExact (some 4) none body ∧
      bufferBody (some 4) none body = .error (.tooLarge 4) ∧
      bufferBody (some 5) none body = .error (.read "reset") := by
  intro body
  have hshort : body.Short := show 5 < _ by decide
  exact ⟨hshort, cap_exact (some 4) none hshort, rfl, rfl⟩

end Resolver

end AssetCache
