import AssetCache.Digest.Hasher

/-!
# Digests of chunks

A digest under way is fed octets in chunks of any sizes, empty ones too.  What it has become is a
matter of the octets alone and not of where they were cut: feeding two chunks is feeding one that is
both of them.  At its end it gives the digest of all of them, for the digests of padded blocks
because the blocks are the same, and for BLAKE3 because the subtrees that it keeps are those of the
whole tree that stand to the left of its last leaf.

Results:
1. `BlockHash.update_update`, `Blake3.update_update`: two chunks are one.
2. `BlockHash.finish_update`: a message that comes at once, in padded blocks.
3. `Blake3.holds_carry`: one more leaf leaves the subtrees as a binary counter has them.
4. `Blake3.joinLeft_eq_tree`: joined with what follows them, the subtrees are the whole tree.
5. `Hasher.chunks_digested_as_one`: whatever the chunks are, the digest is that of all of them.
-/

namespace AssetCache

namespace Digest

/-! ## Padded blocks -/

namespace BlockHash

variable {σ : Type} {H : BlockHash σ}

theorem absorb_add (m n : Nat) (chain : σ) (data : Bytes) :
    H.absorb (m + n) chain data =
      H.absorb n (H.absorb m chain data) (data.drop (m * H.blockSize)) := by
  induction m generalizing chain data with
  | zero => simp [absorb]
  | succ m ih =>
    rw [Nat.add_right_comm, absorb, absorb, ih, List.drop_drop, Nat.succ_mul, Nat.add_comm]

/-- Whole blocks are all that is looked at. -/
theorem absorb_append {n : Nat} {chain : σ} {data : Bytes} (rest : Bytes)
    (h : n * H.blockSize ≤ data.length) :
    H.absorb n chain (data ++ rest) = H.absorb n chain data := by
  induction n generalizing chain data with
  | zero => rfl
  | succ n ih =>
    rw [Nat.succ_mul] at h
    have hrest : n * H.blockSize ≤ (data.drop H.blockSize).length := by
      rw [List.length_drop]
      omega
    rw [absorb, absorb, List.take_append_of_le_length (by omega),
      List.drop_append_of_le_length (by omega), ih hrest]

/-- To go on with what does not fill a block is to go on with all of it. -/
theorem absorb_resume {chain : σ} {data rest : Bytes} {m n : Nat}
    (hm : m * H.blockSize ≤ data.length) :
    H.absorb n (H.absorb m chain data) (data.drop (m * H.blockSize) ++ rest) =
      H.absorb (m + n) chain (data ++ rest) := by
  rw [absorb_add, absorb_append rest hm, List.drop_append_of_le_length hm]

theorem blocks_append (data rest : Bytes) :
    (data ++ rest).length / H.blockSize =
      data.length / H.blockSize +
        (data.drop (data.length / H.blockSize * H.blockSize) ++ rest).length / H.blockSize := by
  have hdiv := Nat.div_add_mod data.length H.blockSize
  have hrest : (data.drop (data.length / H.blockSize * H.blockSize) ++ rest).length =
      data.length % H.blockSize + rest.length := by
    rw [List.length_append, List.length_drop, Nat.mul_comm]
    omega
  rw [hrest, List.length_append, ← Nat.mul_add_div H.blockSize_pos]
  congr 1
  omega

theorem update_update (s : Stream σ) (a b : Bytes) :
    H.update (H.update s a) b = H.update s (a ++ b) := by
  have hle := Nat.div_mul_le_self (s.pending ++ a).length H.blockSize
  have hblocks := blocks_append (H := H) (s.pending ++ a) b
  unfold update
  dsimp only
  rw [← List.append_assoc, absorb_resume hle, hblocks]
  congr 1
  · rw [Nat.add_mul, ← List.drop_drop, List.drop_append_of_le_length hle]
  · rw [List.length_append, Nat.add_assoc]

theorem update_start_nil : H.update H.start [] = H.start := by
  simp [update, start, absorb]

theorem finish_update (message : Bytes) :
    H.finish (H.update H.start message) = H.digest message := by
  have hle := Nat.div_mul_le_self message.length H.blockSize
  have hblocks := blocks_append (H := H) message (H.padding message.length)
  unfold finish digest absorbAll update start
  simp only [List.nil_append, Nat.zero_add]
  rw [absorb_resume hle, ← hblocks]

end BlockHash

/-! ## BLAKE3 -/

namespace Blake3

/-- The octets of a full subtree of `2 ^ level` leaves. -/
def span (level : Nat) : Nat := chunkSize <<< level

theorem span_zero : span 0 = chunkSize := rfl

theorem span_succ (level : Nat) : span (level + 1) = 2 * span level := by
  unfold span
  rw [Nat.shiftLeft_succ]

theorem span_pos (level : Nat) : 0 < span level := by
  unfold span
  rw [Nat.shiftLeft_eq]
  exact Nat.mul_pos (by decide) (Nat.two_pow_pos level)

/-! ### Trees -/

theorem tree_succ_of_le {height first : Nat} {data : Bytes} (h : data.length ≤ span height) :
    tree (height + 1) first data = tree height first data :=
  if_pos h

theorem tree_succ_of_lt {height first : Nat} {data : Bytes} (h : span height < data.length) :
    tree (height + 1) first data =
      parent (tree height first (data.take (span height))).compress
        (tree height (first + 1 <<< height) (data.drop (span height))).compress :=
  if_neg (Nat.not_le_of_lt h)

/-- A tree that is high enough may be higher. -/
theorem tree_add {height first : Nat} {data : Bytes} (h : data.length ≤ span height) (more : Nat) :
    tree (height + more) first data = tree height first data ∧
      data.length ≤ span (height + more) := by
  induction more with
  | zero => exact ⟨rfl, h⟩
  | succ more ih =>
    obtain ⟨htree, hlength⟩ := ih
    refine ⟨(tree_succ_of_le hlength).trans htree, ?_⟩
    rw [← Nat.add_assoc, span_succ]
    omega

theorem tree_eq {height height' first : Nat} {data : Bytes} (h : data.length ≤ span height)
    (h' : data.length ≤ span height') : tree height first data = tree height' first data := by
  rcases Nat.le_total height height' with hle | hle
  · obtain ⟨more, rfl⟩ := Nat.exists_eq_add_of_le hle
    exact (tree_add h more).1.symm
  · obtain ⟨more, rfl⟩ := Nat.exists_eq_add_of_le hle
    exact (tree_add h' more).1

/-! ### The subtrees to the left -/

/-- The chaining value of the full subtree of `2 ^ level` leaves that has `i` such subtrees to its
left. -/
def fullSubtree (message : Bytes) (level i : Nat) : Chain :=
  (tree level (i <<< level) ((message.drop (i * span level)).take (span level))).compress

theorem shiftLeft_left (i level : Nat) : (2 * i) <<< level = i <<< (level + 1) := by
  simp only [Nat.shiftLeft_eq, Nat.pow_succ]
  grind

theorem shiftLeft_right (i level : Nat) :
    (2 * i + 1) <<< level = i <<< (level + 1) + 1 <<< level := by
  simp only [Nat.shiftLeft_eq, Nat.pow_succ]
  grind

/-- Two full subtrees side by side are the halves of one. -/
theorem fullSubtree_succ {message : Bytes} {level i : Nat}
    (h : (i + 1) * span (level + 1) ≤ message.length) :
    fullSubtree message (level + 1) i =
      (parent (fullSubtree message level (2 * i))
        (fullSubtree message level (2 * i + 1))).compress := by
  have hpos := span_pos level
  have hspan := span_succ level
  have hleft : 2 * i * span level = i * span (level + 1) := by rw [hspan]; grind
  have hright : (2 * i + 1) * span level = i * span (level + 1) + span level := by
    rw [Nat.succ_mul, hleft]
  rw [Nat.succ_mul] at h
  have hlength : ((message.drop (i * span (level + 1))).take (span (level + 1))).length =
      span (level + 1) := by
    rw [List.length_take, List.length_drop]
    omega
  unfold fullSubtree
  rw [tree_succ_of_lt (by omega), List.take_take, List.drop_take, List.drop_drop, hleft, hright,
    shiftLeft_left, shiftLeft_right, Nat.min_eq_left (by omega),
    show span (level + 1) - span level = span level by omega]

/-- The subtrees are those of the first `count` full ones of `2 ^ level` leaves, as the digits of a
binary number: an entry says whether there is one of its size, and which. -/
inductive Holds (message : Bytes) : (level count : Nat) → List (Option Chain) → Prop
  | nothing (level : Nat) : Holds message level 0 []
  | even {level half : Nat} {rest : List (Option Chain)}
    (hrest : Holds message (level + 1) half rest) :
    Holds message level (2 * half) (none :: rest)
  | odd {level half : Nat} {rest : List (Option Chain)}
    (hrest : Holds message (level + 1) half rest) :
    Holds message level (2 * half + 1) (some (fullSubtree message level (2 * half)) :: rest)

/-- One more full subtree is added as one is to a binary number. -/
theorem holds_carry {message : Bytes} {level count : Nat} {subtrees : List (Option Chain)}
    (h : Holds message level count subtrees) (hlength : (count + 1) * span level ≤ message.length) :
    Holds message level (count + 1) (carry (fullSubtree message level count) subtrees) := by
  induction h with
  | nothing level => exact .odd (.nothing (level + 1))
  | even hrest => exact .odd hrest
  | @odd level half rest _ ih =>
    have hhalf : (half + 1) * span (level + 1) ≤ message.length := by
      rw [span_succ]
      refine Nat.le_trans (Nat.le_of_eq ?_) hlength
      grind
    rw [carry, ← fullSubtree_succ hhalf]
    exact .even (ih hhalf)

/-- Joined with what follows them, the subtrees are the whole tree. -/
theorem joinLeft_eq_tree {message : Bytes} {level count : Nat} {subtrees : List (Option Chain)}
    (h : Holds message level count subtrees)
    (hafter : 0 < count → count * span level < message.length)
    (hlast : message.length ≤ (count + 1) * span level) :
    ∃ height, message.length ≤ span height ∧
      joinLeft (tree level (count <<< level) (message.drop (count * span level))) subtrees =
        tree height 0 message := by
  induction h with
  | nothing level => exact ⟨level, by simpa using hlast, by simp [joinLeft]⟩
  | @even level half rest _ ih =>
    have hspan : half * span (level + 1) = 2 * half * span level := by rw [span_succ]; grind
    have hnext : (half + 1) * span (level + 1) = 2 * half * span level + 2 * span level := by
      rw [span_succ]; grind
    rw [Nat.succ_mul] at hlast
    obtain ⟨height, hheight, htree⟩ := ih (fun hpos => by
      rw [hspan]; exact hafter (by omega)) (by omega)
    refine ⟨height, hheight, ?_⟩
    rw [joinLeft, shiftLeft_left, ← htree, ← hspan, tree_succ_of_le]
    rw [List.length_drop]
    omega
  | @odd level half rest _ ih =>
    have hspan : half * span (level + 1) = 2 * half * span level := by rw [span_succ]; grind
    have hnext : (half + 1) * span (level + 1) = 2 * half * span level + 2 * span level := by
      rw [span_succ]; grind
    have hpos := hafter (by omega)
    rw [Nat.succ_mul] at hpos
    rw [Nat.succ_mul, Nat.succ_mul] at hlast
    obtain ⟨height, hheight, htree⟩ := ih (fun _ => by omega) (by omega)
    refine ⟨height, hheight, ?_⟩
    have hdrop : span level < (message.drop (half * span (level + 1))).length := by
      rw [List.length_drop]
      omega
    rw [joinLeft, ← htree, tree_succ_of_lt hdrop, fullSubtree, List.drop_drop, ← hspan,
      shiftLeft_left, shiftLeft_right, Nat.succ_mul, ← hspan]

/-! ### Streams -/

theorem absorb_pending (n : Nat) (s : Stream) (pending data : Bytes) :
    Stream.absorb n { s with pending := pending } data = s.absorb n data := by
  cases n with
  | zero => rfl
  | succ n => rfl

theorem pending_absorb (n : Nat) (s : Stream) (data : Bytes) :
    (s.absorb n data).pending = data.drop (n * chunkSize) := by
  induction n generalizing s data with
  | zero => simp [Stream.absorb]
  | succ n ih => rw [Stream.absorb, ih, List.drop_drop, Nat.succ_mul, Nat.add_comm]

theorem count_absorb (n : Nat) (s : Stream) (data : Bytes) :
    (s.absorb n data).count = s.count + n := by
  induction n generalizing s data with
  | zero => rfl
  | succ n ih => rw [Stream.absorb, ih, Nat.add_right_comm, Nat.add_assoc]

theorem absorb_add (m n : Nat) (s : Stream) (data : Bytes) :
    s.absorb (m + n) data = (s.absorb m data).absorb n (data.drop (m * chunkSize)) := by
  induction m generalizing s data with
  | zero => simpa [Stream.absorb] using (absorb_pending n s data data).symm
  | succ m ih =>
    rw [Nat.add_right_comm, Stream.absorb, Stream.absorb, ih, List.drop_drop, Nat.succ_mul,
      Nat.add_comm chunkSize]

/-- Whole chunks are all that is taken in. -/
theorem absorb_append {n : Nat} {s : Stream} {data : Bytes} (rest : Bytes)
    (h : n * chunkSize ≤ data.length) :
    s.absorb n (data ++ rest) =
      { s.absorb n data with pending := data.drop (n * chunkSize) ++ rest } := by
  induction n generalizing s data with
  | zero => simp [Stream.absorb]
  | succ n ih =>
    rw [Nat.succ_mul] at h
    have hrest : n * chunkSize ≤ (data.drop chunkSize).length := by
      rw [List.length_drop]
      omega
    rw [Stream.absorb, Stream.absorb, List.take_append_of_le_length (by omega),
      List.drop_append_of_le_length (by omega), ih hrest, List.drop_drop, Nat.succ_mul,
      Nat.add_comm chunkSize]

/-- To go on with what is pending is to go on with all of it. -/
theorem absorb_resume {m n : Nat} {s : Stream} {data rest : Bytes}
    (hm : m * chunkSize ≤ data.length) :
    (s.absorb m data).absorb n (data.drop (m * chunkSize) ++ rest) =
      s.absorb (m + n) (data ++ rest) := by
  rw [absorb_add, absorb_append rest hm, List.drop_append_of_le_length hm]
  exact (absorb_pending ..).symm

theorem fullChunks_mul_le (length : Nat) : fullChunks length * chunkSize ≤ length := by
  unfold fullChunks chunkSize
  omega

theorem fullChunks_append (data rest : Bytes) :
    fullChunks (data ++ rest).length =
      fullChunks data.length +
        fullChunks (data.drop (fullChunks data.length * chunkSize) ++ rest).length := by
  simp only [fullChunks, chunkSize, List.length_append, List.length_drop]
  omega

theorem update_update (s : Stream) (a b : Bytes) : (s.update a).update b = s.update (a ++ b) := by
  have hle := fullChunks_mul_le (s.pending ++ a).length
  have hchunks := fullChunks_append (s.pending ++ a) b
  unfold Stream.update
  dsimp only
  rw [pending_absorb, ← List.append_assoc, absorb_resume hle, hchunks]

theorem update_start_nil : start.update [] = start := rfl

/-- A stream that has taken in whole chunks holds their subtrees. -/
theorem holds_absorb {message : Bytes} {n : Nat} {s : Stream}
    (h : Holds message 0 s.count s.subtrees)
    (hlength : (s.count + n) * chunkSize ≤ message.length) :
    Holds message 0 (s.count + n)
      (s.absorb n (message.drop (s.count * chunkSize))).subtrees := by
  induction n generalizing s with
  | zero => exact h
  | succ n ih =>
    have hcarry := holds_carry h (Nat.le_trans (Nat.mul_le_mul_right _ (by omega)) hlength)
    rw [← Nat.add_assoc, Nat.add_right_comm] at hlength ⊢
    rw [Stream.absorb, List.drop_drop, ← Nat.succ_mul]
    exact ih (s := ⟨_, s.count + 1, []⟩) hcarry hlength

theorem length_le_span (length : Nat) : length ≤ span ((fullChunks length).log2 + 1) := by
  have hlog := Nat.lt_log2_self (n := fullChunks length)
  have hchunks : length ≤ chunkSize * (fullChunks length + 1) := by
    unfold fullChunks chunkSize
    omega
  rw [span, Nat.shiftLeft_eq]
  exact Nat.le_trans hchunks (Nat.mul_le_mul_left chunkSize hlog)

theorem finish_update (message : Bytes) : (start.update message).finish = digest message := by
  let count := fullChunks message.length
  let s := start.absorb count message
  have hcount : s.count = count := (count_absorb ..).trans (Nat.zero_add count)
  have hholds : Holds message 0 count s.subtrees := by
    have hle : (start.count + count) * chunkSize ≤ message.length :=
      (Nat.zero_add count).symm ▸ fullChunks_mul_le message.length
    have hall := holds_absorb (.nothing 0) hle
    rwa [show start.count = 0 from rfl, Nat.zero_add, Nat.zero_mul, List.drop_zero] at hall
  have hafter : 0 < count → count * span 0 < message.length := by
    simp only [count, fullChunks, span_zero, chunkSize]
    omega
  have hlast : message.length ≤ (count + 1) * span 0 := by
    simp only [count, fullChunks, span_zero, chunkSize]
    omega
  obtain ⟨height, hheight, htree⟩ := joinLeft_eq_tree hholds hafter hlast
  calc (start.update message).finish
      = (joinLeft (leaf (UInt64.ofNat s.count) s.pending) s.subtrees).root := rfl
    _ = (joinLeft (tree 0 count (message.drop (count * span 0))) s.subtrees).root := by
        rw [hcount, pending_absorb]
        rfl
    _ = (tree height 0 message).root := congrArg Node.root htree
    _ = digest message := by rw [digest, tree_eq hheight (length_le_span message.length)]

end Blake3

/-! ## All digests -/

namespace Algorithm

/-- Two chunks are one that is both of them. -/
theorem update_update (a : Algorithm) (s : a.Stream) (b c : Bytes) :
    a.update (a.update s b) c = a.update s (b ++ c) := by
  cases a with
  | blake3 => exact Blake3.update_update s b c
  | _ => exact BlockHash.update_update s b c

theorem update_start_nil (a : Algorithm) : a.update a.start [] = a.start := by
  cases a with
  | blake3 => exact Blake3.update_start_nil
  | _ => exact BlockHash.update_start_nil

/-- A message that comes at once has its digest. -/
theorem finish_update (a : Algorithm) (message : Bytes) :
    a.finish (a.update a.start message) = a.digest message := by
  cases a with
  | blake3 => exact Blake3.finish_update message
  | _ => exact BlockHash.finish_update message

theorem foldl_update (a : Algorithm) (message : Bytes) (chunks : List Bytes) :
    chunks.foldl a.update (a.update a.start message) =
      a.update a.start (message ++ chunks.flatten) := by
  induction chunks generalizing message with
  | nil => simp
  | cons chunk rest ih =>
    rw [List.foldl_cons, update_update, ih, List.flatten_cons, List.append_assoc]

theorem hashChunks_eq (a : Algorithm) (chunks : List Bytes) :
    a.hashChunks chunks = a.hash chunks.flatten := by
  have hfed := foldl_update a [] chunks
  rw [update_start_nil, List.nil_append] at hfed
  rw [hashChunks, hfed, finish_update, hash]

end Algorithm

end Digest

/-- However a blob is cut into chunks, a hasher's digest of these, fed one by one, is the digest of
the blob; so a blob that is fed as the only chunk has its digest, too. -/
theorem Hasher.chunks_digested_as_one (h : Hasher) :
    (∀ chunks : List Bytes, h.hashChunks chunks = h.hash chunks.flatten) ∧
      ∀ blob : Bytes, h.hashChunks [blob] = h.hash blob := by
  have hall (chunks : List Bytes) : h.hashChunks chunks = h.hash chunks.flatten :=
    h.algorithm.hashChunks_eq chunks
  refine ⟨hall, fun blob => ?_⟩
  rw [hall, List.flatten_singleton]

/-- Empty chunks make no difference to the digest of three octets. -/
example : (Hasher.ofAlgorithm .md5 .md5).hashChunks [[], [0x61], [], [0x62, 0x63]] =
    "900150983cd24fb0d6963f7d28e17f72" := by
  decide +kernel

end AssetCache
