import Mathlib.Data.List.Nodup
import AssetCache.Json.Decode
import AssetCache.Proofs.Json.RoundTrip

/-!
# Decoding what was encoded

A type is faithful to its JSON form if each of its values is read back from it, and has a text that
is read.  Strings, words, integers of 64 bits, lists, and values that may be null are; a record is
if its fields are.

A record is described by its slots: the names of its fields, with the value of each that is written.

Results:
1. `Faithful.list`, `Faithful.nullable`: lists and nullable values of a faithful type.
2. `toRecord?_written`: each field of a record is found in its slot.
-/

namespace AssetCache.Json

variable {α : Type} {toJson : α → Json} {ofJson? : Json → Option α}

/-- What is written of a type can be read as a text, and is read back. -/
structure Faithful (toJson : α → Json) (ofJson? : Json → Option α) : Prop where
  plain (a : α) : (toJson a).Plain
  decode (a : α) : ofJson? (toJson a) = some a

/-! ## Texts and numbers -/

theorem faithful_string : Faithful ofString toString? where
  plain := .string
  decode _ := rfl

theorem faithful_int64 : Faithful (fun n => .integer n.toInt) toInt64? where
  plain n := .integer n.toInt
  decode n := by
    have hrange : (decide (Int64.minValue.toInt ≤ n.toInt) &&
        decide (n.toInt ≤ Int64.maxValue.toInt)) = true := by
      simp only [Bool.and_eq_true, decide_eq_true_eq]
      exact ⟨Int64.minValue_le_toInt n, Int64.toInt_le n⟩
    rw [toInt64?, if_pos hrange, Int64.ofInt_toInt]

/-- The members of an enumeration, if each is told by its word. -/
theorem faithful_word {word : α → String} {ofWord? : String → Option α}
    (h : ∀ a, ofWord? (word a) = some a) :
    Faithful (fun a => ofString (word a)) (fun v => v.toWord?.bind ofWord?) where
  plain a := .string (word a)
  decode := h

/-! ## Lists and nullable values -/

theorem mapM_of_forall {β : Type} {f : α → Option β} {g : α → β} {as : List α}
    (h : ∀ a ∈ as, f a = some (g a)) : as.mapM f = some (as.map g) := by
  induction as with
  | nil => rfl
  | cons a as ih =>
    obtain ⟨ha, has⟩ := List.forall_mem_cons.1 h
    simp [ha, ih has]

theorem Faithful.list (h : Faithful toJson ofJson?) :
    Faithful (fun as => .array (as.map toJson)) (toList? ofJson?) where
  plain as := .array _ (List.forall_mem_map.2 fun a _ => h.plain a)
  decode as := by
    have hread := mapM_of_forall (f := ofJson? ∘ toJson) fun a (_ : a ∈ as) => h.decode a
    rw [toList?, List.mapM_map, hread, List.map_id']

theorem toOption?_of_ne {v : Json} (decode : Json → Option α) (hne : v ≠ .null) :
    toOption? decode v = (decode v).map some := by
  cases v with
  | null => exact absurd rfl hne
  | _ => rfl

/-- A value that is never written as null may be missing. -/
theorem Faithful.toOption?_some (h : Faithful toJson ofJson?) {a : α} (hne : toJson a ≠ .null) :
    toOption? ofJson? (toJson a) = some (some a) := by
  rw [toOption?_of_ne ofJson? hne, h.decode]
  rfl

theorem Faithful.nullable (h : Faithful toJson ofJson?) (hne : ∀ a, toJson a ≠ .null) :
    Faithful (fun a => (a.map toJson).getD .null) (toOption? ofJson?) where
  plain a := by
    cases a with
    | none => exact .null
    | some a => exact h.plain a
  decode a := by
    cases a with
    | none => rfl
    | some a => exact h.toOption?_some (hne a)

/-! ## Fields -/

theorem Faithful.required (h : Faithful toJson ofJson?) (a : α) :
    required ofJson? (some (toJson a)) = some a := h.decode a

theorem Faithful.optional (h : Faithful toJson ofJson?) (default a : α) :
    optional ofJson? default (some (toJson a)) = some a := h.decode a

/-- A field may be left out where its value is the default. -/
theorem Faithful.optional_of_omitted (h : Faithful toJson ofJson?) {default a : α} {omitted : Bool}
    (homitted : omitted = true → a = default) :
    Json.optional ofJson? default (if omitted then none else some (toJson a)) = some a := by
  cases omitted with
  | true => exact congrArg some (homitted rfl).symm
  | false => exact h.decode a

theorem Faithful.optional_map (h : Faithful toJson ofJson?) (hne : ∀ a, toJson a ≠ .null)
    (a : Option α) : Json.optional (toOption? ofJson?) none (a.map toJson) = some a := by
  cases a with
  | none => rfl
  | some a => exact h.toOption?_some (hne a)

/-! ## Records -/

/-- The fields of a record that are written. -/
def written (slots : List (String × Option Json)) : List (String × Json) :=
  slots.flatMap fun s => (s.2.map fun v => (s.1, v)).toList

variable {v : Json} {slots : List (String × Option Json)}

theorem plain_written (hv : v = ofFields (written slots))
    (h : ∀ s ∈ slots, ∀ v ∈ s.2, Plain v) : v.Plain := by
  rw [hv]
  refine .object _ fun f hf => ?_
  obtain ⟨s, hs, hf⟩ := List.mem_flatMap.1 hf
  obtain ⟨v, hv, rfl⟩ := Option.map_eq_some_iff.1 (Option.mem_toList.1 hf)
  exact h s hs v hv

theorem named_written_cons (name : String) (v : Option Json) :
    named (written ((name, v) :: slots)) =
      (v.map fun v => (some name, v)).toList ++ named (written slots) := by
  cases v with
  | _ => rfl

/-- The fields that have a name are those of the slots that have it. -/
theorem filter_written (slots : List (String × Option Json)) (name : String) :
    (named (written slots)).filter (fun f => f.1 == some name) =
      named (written (slots.filter fun s => s.1 = name)) := by
  induction slots with
  | nil => rfl
  | cons s slots ih =>
    obtain ⟨other, v⟩ := s
    rw [named_written_cons, List.filter_append, ih]
    by_cases hname : other = name
    · rw [List.filter_cons_of_pos (by simpa using hname), named_written_cons]
      cases v with
      | none => rfl
      | some v => simp [hname]
    · rw [List.filter_cons_of_neg (by simpa using hname)]
      cases v with
      | none => rfl
      | some v => simp [hname]

theorem filter_slots (hnodup : (slots.map Prod.fst).Nodup) {s : String × Option Json}
    (hs : s ∈ slots) : (slots.filter fun t => t.1 = s.1) = [s] := by
  induction slots with
  | nil => cases hs
  | cons t slots ih =>
    obtain ⟨hnot, hnodup⟩ := List.nodup_cons.1 hnodup
    rcases List.mem_cons.1 hs with rfl | hs
    · rw [List.filter_cons_of_pos (by simp), List.filter_eq_nil_iff.2]
      intro t ht hname
      exact hnot (List.mem_map.2 ⟨t, ht, by simpa using hname⟩)
    · rw [List.filter_cons_of_neg, ih hnodup hs]
      intro hname
      exact hnot (List.mem_map.2 ⟨s, hs, (of_decide_eq_true hname).symm⟩)

theorem lookup?_written (hnodup : (slots.map Prod.fst).Nodup) {s : String × Option Json}
    (hs : s ∈ slots) : lookup? s.1 (named (written slots)) = some s.2 := by
  obtain ⟨name, v⟩ := s
  rw [lookup?, filter_written, filter_slots hnodup hs]
  cases v with
  | _ => rfl

/-- Each field of a record is found in its slot. -/
theorem toRecord?_written (hv : v = ofFields (written slots))
    (hnodup : (slots.map Prod.fst).Nodup) :
    toRecord? (slots.map Prod.fst) v = some (slots.map Prod.snd) := by
  rw [hv]
  have hnamed : ((named (written slots)).any fun f => f.1.isNone) = false := by
    simp [named]
  show (if ((named (written slots)).any fun f => f.1.isNone) then none
    else (slots.map Prod.fst).mapM fun name => lookup? name (named (written slots))) = _
  rw [hnamed, if_neg Bool.false_ne_true, List.mapM_map]
  exact mapM_of_forall fun s hs => lookup?_written hnodup hs

end AssetCache.Json
