import TemplateBundler.Text.Slice

/-! # Cutting at measured places

Cutting a text after the bytes of its front gives the front back. A cut further on is a
cut of the rest, so an offset can be read relative to any place that is itself no
offset inside a character.
-/

namespace TemplateBundler.Text

@[simp]
theorem byteLength_nil : byteLength [] = 0 := rfl

@[simp]
theorem byteLength_cons (c : Char) (cs : List Char) :
    byteLength (c :: cs) = c.utf8Size + byteLength cs := rfl

@[simp]
theorem byteLength_append (xs ys : List Char) :
    byteLength (xs ++ ys) = byteLength xs + byteLength ys := by
  induction xs with
  | nil => simp
  | cons c xs ih => simp [ih, Nat.add_assoc]

theorem byteLength_eq_zero {cs : List Char} : byteLength cs = 0 ↔ cs = [] := by
  cases cs with
  | nil => simp
  | cons c cs =>
      have hpos := Char.utf8Size_pos c
      simp only [byteLength_cons, reduceCtorEq, iff_false]
      omega

theorem length_le_byteLength (cs : List Char) : cs.length ≤ byteLength cs := by
  induction cs with
  | nil => exact Nat.le_refl 0
  | cons c cs ih =>
      have hpos := Char.utf8Size_pos c
      simp only [List.length_cons, byteLength_cons]
      omega

/-- The bytes of a text are those of its characters. -/
theorem byteLength_toList (text : String) : byteLength text.toList = text.utf8ByteSize := by
  obtain ⟨cs, rfl⟩ : ∃ cs, text = String.ofList cs := ⟨text.toList, String.ofList_toList.symm⟩
  rw [String.toList_ofList]
  induction cs with
  | nil => rfl
  | cons c cs ih =>
      rw [byteLength_cons, ih, String.ofList_cons, String.utf8ByteSize_append,
        String.utf8ByteSize_singleton]

/-- Past a front of whole characters, a cut falls where it falls in the rest. -/
theorem splitAt?_byteLength_add (xs ys : List Char) (n : Nat) :
    splitAt? (byteLength xs + n) (xs ++ ys) =
      (splitAt? n ys).map fun (before, rest) => (xs ++ before, rest) := by
  induction xs with
  | nil => simp
  | cons c xs ih =>
      have hpos := Char.utf8Size_pos c
      obtain ⟨m, hm⟩ : ∃ m, byteLength (c :: xs) + n = m + 1 :=
        ⟨byteLength (c :: xs) + n - 1, by simp only [byteLength_cons]; omega⟩
      have hrest : m + 1 - c.utf8Size = byteLength xs + n := by
        simp only [byteLength_cons] at hm
        omega
      have hfits : c.utf8Size ≤ m + 1 := by
        simp only [byteLength_cons] at hm
        omega
      rw [hm, List.cons_append, splitAt?, if_pos hfits, hrest, ih, Option.map_map]
      rfl

theorem splitAt?_byteLength (xs ys : List Char) :
    splitAt? (byteLength xs) (xs ++ ys) = some (xs, ys) := by
  simpa [splitAt?] using splitAt?_byteLength_add xs ys 0

/-- Whatever is cut off was measured. -/
theorem splitAt?_eq_some_iff {n : Nat} {cs before rest : List Char} :
    splitAt? n cs = some (before, rest) ↔ cs = before ++ rest ∧ n = byteLength before := by
  constructor
  · intro h
    induction cs generalizing n before with
    | nil =>
        cases n with
        | zero =>
            cases h
            exact ⟨rfl, rfl⟩
        | succ n => cases h
    | cons c cs ih =>
        cases n with
        | zero =>
            cases h
            exact ⟨rfl, rfl⟩
        | succ n =>
            rw [splitAt?] at h
            split at h
            next hfits =>
              obtain ⟨⟨before, rest⟩, hcut, hparts⟩ := Option.map_eq_some_iff.mp h
              cases hparts
              obtain ⟨rfl, hlength⟩ := ih hcut
              refine ⟨rfl, ?_⟩
              rw [byteLength_cons]
              omega
            next => cases h
  · rintro ⟨rfl, rfl⟩
    exact splitAt?_byteLength before rest

/-- The slice between two measured places is what stands between them. -/
theorem slice?_byteLength (before middle after : List Char) :
    slice? (byteLength before) (byteLength before + byteLength middle)
      (before ++ middle ++ after) = some middle := by
  have hlen : byteLength before + byteLength middle - byteLength before = byteLength middle := by
    omega
  have hle : ¬ byteLength before + byteLength middle < byteLength before := by omega
  simp [slice?, hle, hlen, splitAt?_byteLength]

/-- There is a slice between two offsets just if both were measured, in this order. -/
theorem slice?_eq_some_iff {start stop : Nat} {cs found : List Char} :
    slice? start stop cs = some found ↔ ∃ before after, cs = before ++ found ++ after ∧
      start = byteLength before ∧ stop = start + byteLength found := by
  constructor
  · intro h
    have hle : ¬ stop < start := fun hlt => by simp [slice?, hlt] at h
    simp only [slice?, if_neg hle] at h
    obtain ⟨⟨before, rest⟩, hbefore, h⟩ := Option.bind_eq_some_iff.mp h
    obtain ⟨⟨middle, after⟩, hmiddle, h⟩ := Option.bind_eq_some_iff.mp h
    obtain rfl : middle = found := Option.some.inj h
    obtain ⟨rfl, hstart⟩ := splitAt?_eq_some_iff.mp hbefore
    obtain ⟨rfl, hlength⟩ := splitAt?_eq_some_iff.mp hmiddle
    exact ⟨before, after, (List.append_assoc _ _ _).symm, hstart, by omega⟩
  · rintro ⟨before, after, rfl, rfl, rfl⟩
    exact slice?_byteLength before found after

/-! ## Fronts of limited length -/

/-- The front holds as many whole characters as fit into `limit` bytes. -/
structure IsLongestFront (limit : Nat) (cs front : List Char) : Prop where
  isPrefix : front <+: cs
  fits : byteLength front ≤ limit
  longest : ∀ other, other <+: cs → byteLength other ≤ limit → other <+: front

theorem isLongestFront_takeBytes (limit : Nat) (cs : List Char) :
    IsLongestFront limit cs (takeBytes limit cs) := by
  induction cs generalizing limit with
  | nil => exact ⟨List.nil_prefix, Nat.zero_le _, fun other hother _ => hother⟩
  | cons c cs ih =>
      rw [takeBytes]
      split
      next hfits =>
        obtain ⟨hfront, hrest, hlongest⟩ := ih (limit - c.utf8Size)
        refine ⟨(List.prefix_cons_inj c).mpr hfront, ?_, fun other hother hle => ?_⟩
        · rw [byteLength_cons]
          omega
        · obtain rfl | ⟨tail, rfl, htail⟩ := List.prefix_cons_iff.mp hother
          · exact List.nil_prefix
          · rw [byteLength_cons] at hle
            exact (List.prefix_cons_inj c).mpr (hlongest tail htail (by omega))
      next hfits =>
        refine ⟨List.nil_prefix, Nat.zero_le _, fun other hother hle => ?_⟩
        obtain rfl | ⟨tail, rfl, -⟩ := List.prefix_cons_iff.mp hother
        · exact List.nil_prefix
        · -- Even the first character takes too much.
          rw [byteLength_cons] at hle
          omega

section LongestFronts

variable {limit : Nat} {cs front other : List Char}

theorem byteLength_le_of_isPrefix (h : front <+: cs) : byteLength front ≤ byteLength cs := by
  obtain ⟨rest, rfl⟩ := h
  rw [byteLength_append]
  exact Nat.le_add_right _ _

/-- Only one front is the longest. -/
theorem IsLongestFront.eq_takeBytes (h : IsLongestFront limit cs front) :
    front = takeBytes limit cs := by
  have htake := isLongestFront_takeBytes limit cs
  exact (htake.longest front h.isPrefix h.fits).eq_of_length_le
    (h.longest _ htake.isPrefix htake.fits).length_le

theorem takeBytes_eq_self_iff : takeBytes limit cs = cs ↔ byteLength cs ≤ limit := by
  constructor
  · intro h
    rw [← h]
    exact (isLongestFront_takeBytes limit cs).fits
  · intro hle
    have hself : IsLongestFront limit cs cs := ⟨List.prefix_rfl, hle, fun _ hother _ => hother⟩
    exact hself.eq_takeBytes.symm

/-- The front of a front is cut at the smaller of the two limits. -/
theorem takeBytes_takeBytes (limit limit' : Nat) (cs : List Char) :
    takeBytes limit' (takeBytes limit cs) = takeBytes (min limit limit') cs := by
  have houter := isLongestFront_takeBytes limit cs
  have hinner := isLongestFront_takeBytes limit' (takeBytes limit cs)
  refine IsLongestFront.eq_takeBytes ⟨hinner.isPrefix.trans houter.isPrefix, ?_, ?_⟩
  · have hle := byteLength_le_of_isPrefix hinner.isPrefix
    exact Nat.le_min.mpr ⟨Nat.le_trans hle houter.fits, hinner.fits⟩
  · intro other hother hle
    obtain ⟨hle, hle'⟩ := Nat.le_min.mp hle
    exact hinner.longest other (houter.longest other hother hle) hle'

/-- What is cut off begins with a character that does not fit, and this has at most four bytes. -/
theorem lt_byteLength_takeBytes (h : limit < byteLength cs) :
    limit < byteLength (takeBytes limit cs) + 4 := by
  have htake := isLongestFront_takeBytes limit cs
  obtain ⟨rest, hrest⟩ := htake.isPrefix
  cases rest with
  | nil =>
      rw [List.append_nil, takeBytes_eq_self_iff] at hrest
      omega
  | cons c rest =>
      have hsize := Char.utf8Size_le_four c
      have hnext : takeBytes limit cs ++ [c] <+: cs := ⟨rest, by simpa using hrest⟩
      refine Nat.lt_of_not_le fun hge => ?_
      have hfits : byteLength (takeBytes limit cs ++ [c]) ≤ limit := by
        rw [byteLength_append, byteLength_cons, byteLength_nil]
        omega
      have hlength := (htake.longest _ hnext hfits).length_le
      rw [List.length_append, List.length_singleton] at hlength
      omega

end LongestFronts

end TemplateBundler.Text
