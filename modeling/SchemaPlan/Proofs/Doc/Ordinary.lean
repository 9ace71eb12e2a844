import SchemaPlan.Document.Read
import SchemaPlan.Proofs.Doc.Equality

/-!
# Ordinary values

An integer may have more digits than are written, and a signalling number takes part in no
comparison.  A value is ordinary when neither is met anywhere in it.  Such a value has a text, and it
is either equal to another one or not.

* `IsOrdinary.value`, `IsOrdinary.columnEntries` and `IsOrdinary.items` say that the parts of ordinary
  values are ordinary.
* `IsOrdinary.isShown` says that they have texts, so that no message is in want of one.
* `IsOrdinary.exists_same?` says that their comparison has an answer.
-/
namespace SchemaPlan.Doc

/-- A value whose integers can be written and whose decimals can be compared. -/
inductive IsOrdinary : Doc → Prop where
  | null : IsOrdinary null
  | bool (b : Bool) : IsOrdinary (bool b)
  | int {n : Int} (h : Numeral.isWritable n = true) : IsOrdinary (int n)
  | float (x : Binary64) : IsOrdinary (float x)
  | decimal {x : Decimal} (h : x.isSignalling = false) : IsOrdinary (decimal x)
  | text (s : String) : IsOrdinary (text s)
  | bytes (b : List UInt8) : IsOrdinary (bytes b)
  | list {xs : List Doc} (h : ∀ x ∈ xs, IsOrdinary x) : IsOrdinary (list xs)
  | mapping {fields : Fields} (h : ∀ field ∈ fields, IsOrdinary field.2) :
    IsOrdinary (mapping fields)

namespace IsOrdinary

variable {d e : Doc} {fields : Fields} {x y : Decimal}

/-! ## Parts -/

theorem of_mem {field : Option String × Doc} (h : (Doc.mapping fields).IsOrdinary)
    (hfield : field ∈ fields) : field.2.IsOrdinary := by
  cases h with
  | mapping h => exact h field hfield

/-- The value under a key is one of the values, or null. -/
theorem value (h : (Doc.mapping fields).IsOrdinary) (key : String) :
    (fields.value key).IsOrdinary := by
  unfold Fields.value
  cases hlookup : fields.lookup (some key) with
  | none => exact .null
  | some found =>
    obtain ⟨before, after, rfl, -⟩ := List.lookup_eq_some_iff.mp hlookup
    exact h.of_mem (List.mem_append_right before List.mem_cons_self)

theorem put {kept : Fields} (h : ∀ field ∈ kept, field.2.IsOrdinary) (key : Option String)
    (hd : d.IsOrdinary) : ∀ field ∈ kept.put key d, field.2.IsOrdinary := by
  induction kept with
  | nil => exact List.forall_mem_singleton.mpr hd
  | cons first rest ih =>
    obtain ⟨hfirst, hrest⟩ := List.forall_mem_cons.mp h
    unfold Fields.put
    split_ifs
    · exact List.forall_mem_cons.mpr ⟨hd, hrest⟩
    · exact List.forall_mem_cons.mpr ⟨hfirst, ih hrest⟩

/-- Writing null keys as texts leaves the values as they are. -/
theorem columnEntries (h : d.IsOrdinary) : (Document.columnEntries d).IsOrdinary := by
  cases h with
  | @mapping fields h =>
    unfold Document.columnEntries
    dsimp only
    split_ifs
    · -- along the fields, what is kept so far being ordinary
      refine .mapping (List.foldlRecOn (motive := fun (kept : Fields) =>
        ∀ field ∈ kept, field.2.IsOrdinary) fields _ (List.forall_mem_nil _) ?_)
      exact fun kept hkept field hfield => put hkept _ (h field hfield)
    · exact .mapping h
  | null => exact .null
  | bool b => exact .bool b
  | int h => exact .int h
  | float x => exact .float x
  | decimal h => exact .decimal h
  | text s => exact .text s
  | bytes b => exact .bytes b
  | list h => exact .list h

/-- An integer that is no longer than a byte. -/
theorem byte (b : UInt8) : (Doc.int b.toNat).IsOrdinary := by
  have hpow (digits : Nat) (h : 3 ≤ digits) : b.toNat < Nat.pow 10 digits :=
    calc b.toNat < 10 ^ 3 := Nat.lt_trans b.toNat_lt (by decide)
      _ ≤ 10 ^ digits := Nat.pow_le_pow_right (by decide) h
  have hlimit : 3 ≤ Numeral.digitLimit := by decide
  have hbyte : b.toNat < Numeral.unwritten := by
    unfold Numeral.unwritten
    exact hpow Numeral.digitLimit hlimit
  refine .int ?_
  rw [Numeral.isWritable, Int.natAbs_natCast]
  exact decide_eq_true hbyte

theorem items {xs : List Doc} (h : d.IsOrdinary) (hxs : Document.items d = .ok xs) :
    ∀ x ∈ xs, x.IsOrdinary := by
  cases h with
  | list h =>
    cases hxs
    exact h
  | text s =>
    cases hxs
    exact List.forall_mem_map.mpr fun c _ => .text _
  | @mapping fields h =>
    cases hxs
    refine List.forall_mem_map.mpr fun field _ => ?_
    rcases field with ⟨_ | key, v⟩
    · exact .null
    · exact .text key
  | bytes b =>
    cases hxs
    exact List.forall_mem_map.mpr fun c _ => byte c
  | _ => cases hxs

/-! ## Texts -/

theorem checkItems_eq_ok {f : Doc → Except Problem Unit} {xs : List Doc}
    (h : ∀ x ∈ xs, x.check f = .ok ()) : checkItems f xs = .ok () := by
  induction xs with
  | nil => rfl
  | cons x rest ih =>
    obtain ⟨hx, hrest⟩ := List.forall_mem_cons.mp h
    rw [checkItems, hx]
    exact ih hrest

theorem checkFields_eq_ok {f : Doc → Except Problem Unit} {fields : Fields}
    (h : ∀ field ∈ fields, field.2.check f = .ok ()) : checkFields f fields = .ok () := by
  induction fields with
  | nil => rfl
  | cons field rest ih =>
    obtain ⟨hfield, hrest⟩ := List.forall_mem_cons.mp h
    rw [checkFields, hfield]
    exact ih hrest

/-- An ordinary value has a text. -/
theorem checkDigits (h : d.IsOrdinary) : d.checkDigits = .ok () := by
  unfold Doc.checkDigits
  induction h with
  | int h =>
    simp only [check, h]
    rfl
  | list _ ih => exact checkItems_eq_ok ih
  | mapping _ ih => exact checkFields_eq_ok ih
  | _ => rfl

theorem isShown (h : d.IsOrdinary) : d.isShown = true := by
  rw [Doc.isShown, h.checkDigits]
  rfl

theorem shown (h : d.IsOrdinary) : d.shown = .ok d.display :=
  shown_eq_ok_iff.mpr ⟨h.isShown, rfl⟩

/-- A message that shows an ordinary value stays as it is. -/
theorem worded (h : d.IsOrdinary) (p : Problem) : d.worded p = p := by
  unfold Doc.worded
  split
  · rfl
  · rw [if_pos h.isShown]

/-! ## Comparisons -/

theorem exists_sameValue? (hx : x.isSignalling = false) (hy : y.isSignalling = false) :
    ∃ answer, x.sameValue? y = some answer := by
  unfold Decimal.sameValue?
  rw [hx, hy]
  cases x.isNan || y.isNan with
  | true => exact ⟨_, rfl⟩
  | false => exact ⟨_, rfl⟩

theorem isSignalling_number? (h : d.IsOrdinary) (hx : d.number? = some x) :
    x.isSignalling = false := by
  cases h with
  | bool | int =>
    cases hx
    rfl
  | float y =>
    cases hx
    cases y with
    | finite negative m e =>
      unfold Binary64.toDecimal
      dsimp only
      split_ifs <;> rfl
    | infinite => rfl
    | nan => rfl
  | decimal h =>
    cases hx
    exact h
  | _ => cases hx

theorem exists_sameNumber? (hx : x.isSignalling = false) (h : e.IsOrdinary) :
    ∃ answer, sameNumber? x e = some answer := by
  unfold sameNumber?
  cases hy : e.number? with
  | none => exact ⟨_, rfl⟩
  | some y => exact exists_sameValue? hx (h.isSignalling_number? hy)

theorem exists_sameItems? {xs ys : List Doc}
    (h : ∀ x ∈ xs, ∀ {e : Doc}, e.IsOrdinary → ∃ answer, x.same? e = some answer)
    (hys : ∀ y ∈ ys, y.IsOrdinary) : ∃ answer, sameItems? xs ys = some answer := by
  induction xs generalizing ys with
  | nil => exact ⟨true, by rw [sameItems?]; nofun⟩
  | cons x rest ih =>
    obtain ⟨hx, hrest⟩ := List.forall_mem_cons.mp h
    cases ys with
    | nil => exact ⟨true, by rw [sameItems?]; nofun⟩
    | cons y others =>
      obtain ⟨hy, hothers⟩ := List.forall_mem_cons.mp hys
      obtain ⟨answer, hanswer⟩ := hx hy
      rw [sameItems?, hanswer]
      cases answer with
      | true => exact ih hrest hothers
      | false => exact ⟨false, rfl⟩

theorem exists_sameFields? {fs gs : Fields}
    (h : ∀ field ∈ fs, ∀ {e : Doc}, e.IsOrdinary → ∃ answer, field.2.same? e = some answer)
    (hgs : ∀ field ∈ gs, field.2.IsOrdinary) : ∃ answer, sameFields? fs gs = some answer := by
  induction fs with
  | nil => exact ⟨true, by rw [sameFields?]⟩
  | cons field rest ih =>
    obtain ⟨hfield, hrest⟩ := List.forall_mem_cons.mp h
    rw [sameFields?]
    cases hlookup : gs.lookup field.1 with
    | none => exact ⟨false, rfl⟩
    | some found =>
      obtain ⟨before, after, rfl, -⟩ := List.lookup_eq_some_iff.mp hlookup
      obtain ⟨answer, hanswer⟩ := hfield (hgs _ (List.mem_append_right before List.mem_cons_self))
      dsimp only
      rw [hanswer]
      cases answer with
      | true => exact ih hrest
      | false => exact ⟨false, rfl⟩

/-- The comparison of ordinary values has an answer. -/
theorem exists_same? (h : d.IsOrdinary) : ∀ {e : Doc}, e.IsOrdinary →
    ∃ answer, d.same? e = some answer := by
  -- along the first value
  induction h with
  | list _ ih =>
    intro e he
    unfold same?
    split
    · split_ifs
      · cases he with
        | list hys => exact exists_sameItems? ih hys
      · exact ⟨false, rfl⟩
    · exact ⟨false, rfl⟩
  | mapping _ ih =>
    intro e he
    unfold same?
    split
    · split_ifs
      · cases he with
        | mapping hgs => exact exists_sameFields? ih hgs
      · exact ⟨false, rfl⟩
    · exact ⟨false, rfl⟩
  | null =>
    exact fun _ => ⟨_, rfl⟩
  | text s | bytes s =>
    intro e _
    unfold same?
    split <;> exact ⟨_, rfl⟩
  | bool b => exact fun he => exists_sameNumber? rfl he
  | int n => exact fun he => exists_sameNumber? rfl he
  | float x => exact fun he => exists_sameNumber? (isSignalling_number? (.float x) rfl) he
  | decimal hx => exact fun he => exists_sameNumber? hx he

end IsOrdinary

end SchemaPlan.Doc
