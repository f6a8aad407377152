import Std.Data.String.ToNat
import TemplateBundler.Processor.Script.Value
import TemplateBundler.Proofs.Decimal.Whole
import TemplateBundler.Proofs.Json.Printer

/-! # What the script's language writes

Where the language writes a value as it would be printed here: texts, whole numbers that a
floating-point number holds exactly, and objects whose names mean nothing to the language.
-/

namespace TemplateBundler.Processor.Script

variable {n : Nat} {x : Float} {json : Json} {name : String}
  {members plain : List (String × Json)}

/-! ## Numbers -/

theorem writesWhole_numberLayout : numberLayout.WritesWhole := ⟨by decide, by decide, rfl⟩

theorem write_natural (hlt : n < 2 ^ 53) : numberLayout.write (Float.ofNat n) = toString n := by
  obtain rfl | hpos := Nat.eq_zero_or_pos n
  · decide
  · exact Decimal.Notation.write_ofNat writesWhole_numberLayout ⟨hpos, hlt⟩

theorem isFinite_natural (hlt : n < 2 ^ 53) : (Float.ofNat n).isFinite := by
  obtain rfl | hpos := Nat.eq_zero_or_pos n
  · decide
  · exact Decimal.IsExact.isFinite_ofNat ⟨hpos, hlt⟩

/-- The value is the number `n` for the language, whether it was given as an integer or not. -/
inductive IsNumber : Nat → Json → Prop
  | integer (n : Nat) : IsNumber n (.integer n)
  | float (n : Nat) : IsNumber n (.float (Float.ofNat n))
  | negativeZero : IsNumber 0 (.float (-0.0))

theorem render_integer (n : Nat) : (Json.integer n).render = toString n :=
  String.join_cons.trans String.append_empty

theorem stringify_float (hfinite : x.isFinite) : stringify (.float x) = numberLayout.write x := by
  rw [stringify, pieces, if_pos hfinite]
  exact String.join_cons.trans String.append_empty

theorem stringify_number (h : IsNumber n json) (hlt : n < 2 ^ 53) :
    stringify json = (Json.integer n).render := by
  rw [render_integer]
  cases h with
  | integer =>
      rw [stringify, pieces]
      exact String.join_cons.trans (String.append_empty.trans (write_natural hlt))
  | float => rw [stringify_float (isFinite_natural hlt), write_natural hlt]
  | negativeZero => decide

theorem stringify_text (s : String) : stringify (.text s) = (Json.text s).render := rfl

/-! ## Objects -/

/-- A name with a letter in it is no place in a list. -/
theorem placeName?_eq_none (h : name.toList.any fun c => !c.isDigit && c != '_') :
    placeName? name = none := by
  have hnat : name.isNat = false := by
    obtain ⟨c, hmem, hletter⟩ := List.any_eq_true.mp h
    rw [← Bool.not_eq_true, String.isNat_iff]
    intro ⟨_, hdigits, _⟩
    simp only [Bool.and_eq_true, Bool.not_eq_true', bne_iff_ne] at hletter
    exact (hdigits c hmem).elim (Bool.eq_false_iff.mp hletter.1) hletter.2
  rw [placeName?, String.toNat?_eq_none hnat]
  rfl

/-- A name means nothing to the language: it is neither a place nor what an object inherits. -/
structure IsOrdinary (name : String) : Prop where
  ne_proto : name ≠ protoName
  notPlace : placeName? name = none

theorem memberTexts_eq (h : ∀ member ∈ members, IsOrdinary member.1) :
    memberTexts members =
      members.map fun (name, value) => (name, Json.literal name ++ ":" ++ stringify value) := by
  induction members with
  | nil => rfl
  | cons member members ih =>
      obtain ⟨hmember, hothers⟩ := List.forall_mem_cons.mp h
      rw [memberTexts, if_neg hmember.ne_proto, ih hothers]
      rfl

theorem filterMap_places {α : Type} {members : List (String × α)}
    (h : ∀ member ∈ members, placeName? member.1 = none) :
    members.filterMap (fun (name, value) =>
      (placeName? name).map fun n => (n, name, value)) = [] := by
  rw [List.filterMap_eq_nil_iff]
  intro member hmember
  simp only [h member hmember, Option.map_none]

theorem orderMembers_eq {α : Type} {members : List (String × α)}
    (h : ∀ member ∈ members, placeName? member.1 = none) : orderMembers members = members := by
  have hnames : members.filter (fun member => (placeName? member.1).isNone) = members := by
    rw [List.filter_eq_self]
    intro member hmember
    rw [h member hmember]
    rfl
  rw [orderMembers, filterMap_places h, hnames, List.mergeSort_nil]
  rfl

theorem intercalate_eq_listed (texts : List (List Char)) :
    [','].intercalate texts = Json.listed true texts := by
  induction texts with
  | nil => rfl
  | cons text texts ih =>
      cases texts with
      | nil => simp [Json.listed]
      | cons next texts =>
          rw [List.intercalate_cons_cons, ih]
          simp [Json.listed]

/-- An object of such names is written with its members as they stand. -/
theorem toList_stringify_object (hnames : ∀ member ∈ members, IsOrdinary member.1) :
    (stringify (.object members)).toList =
      '\x7b' :: (Json.listed true (members.map fun member =>
        Json.entryChars (member.1, (stringify member.2).toList)) ++ ['\x7d']) := by
  have horder : orderMembers (memberTexts members) = memberTexts members := by
    refine orderMembers_eq fun member hmember => ?_
    rw [memberTexts_eq hnames] at hmember
    obtain ⟨original, horiginal, rfl⟩ := List.mem_map.mp hmember
    exact (hnames original horiginal).notPlace
  have htexts : (memberTexts members).map (fun member => member.2.toList) =
      members.map fun member => Json.entryChars (member.1, (stringify member.2).toList) := by
    simp [memberTexts_eq hnames, Json.entryChars, Function.comp_def]
  rw [← htexts, ← intercalate_eq_listed, stringify, pieces, horder]
  simp [Function.comp_def]

/-- It is written as the object of the same texts is printed. -/
theorem stringify_object (hnames : ∀ member ∈ members, IsOrdinary member.1)
    (h : members.map (fun member => (member.1, stringify member.2)) =
      plain.map fun member => (member.1, member.2.render)) :
    stringify (.object members) = (Json.object plain).render := by
  have htexts := congrArg (List.map fun pair : String × String =>
    Json.entryChars (pair.1, pair.2.toList)) h
  rw [List.map_map, List.map_map] at htexts
  rw [← String.toList_inj, toList_stringify_object hnames]
  change _ = (Json.object plain).chars
  rw [Json.chars_object]
  exact congrArg (fun texts => '\x7b' :: (Json.listed true texts ++ ['\x7d'])) htexts

end TemplateBundler.Processor.Script
