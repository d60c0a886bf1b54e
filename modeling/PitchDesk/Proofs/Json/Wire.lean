import PitchDesk.Json.Wire
import PitchDesk.Proofs.Calendar
import PitchDesk.Proofs.Json.Writer

/-!
# Values that come back from the wire

A type is a `LawfulWire` if every value of it is the one that is read from its JSON form, also when
the form was written as a text and read again on the way: `LawfulWire.ofJson?_read?`.

Integers, texts and dates are lawful, and so are choices whose names tell them apart,
`lawfulWire_choice`. A record is lawful if its fields are, since no two of them have the same name:
they are all found among the members that were given, `lawfulWire_record`.

## What comes back of a form

Writing and reading a JSON value does not always give the same value: a control character in a
string comes back as a unit (`Json.reread`). So the class asks that a value is read from what comes
back of its form, and that its form is plain, which is what reading a written form needs. Both are
asked of every type by itself, and a record only hands them on to its fields. Optional fields need
one thing more, that no value is written like a missing one (`lawfulWire_option`).
-/

namespace PitchDesk

/-- A type whose values come back from what is left of their JSON forms by writing and reading
them. -/
class LawfulWire (α : Type) [Wire α] : Prop where
  isPlain (a : α) : (Wire.toJson a).IsPlain
  ofJson?_reread (a : α) : Wire.ofJson? (Wire.toJson a).reread = some a

attribute [simp] LawfulWire.isPlain LawfulWire.ofJson?_reread

open Json Wire

variable {α : Type}

/-- **A value of a lawful type comes back from the text of its JSON form.** -/
theorem LawfulWire.ofJson?_read? [Wire α] [LawfulWire α] (a : α) :
    (Json.read? (toJson a).toText).bind ofJson? = some a := by
  rw [read?_toText (LawfulWire.isPlain a)]
  exact LawfulWire.ofJson?_reread a

/-! ### Scalars -/

theorem isPlain_int (n : Int) : (Json.int n).IsPlain :=
  ⟨rfl, rfl⟩

/-- An integer between some bounds is read as it was written. -/
theorem integer?_int {low high n : Int} (hlow : low ≤ n) (hhigh : n ≤ high) :
    integer? low high (Json.int n).reread = some n := by
  have hint : Number.int? ⟨decide (n < 0), n.natAbs, [], none⟩ = some n := by
    unfold Number.int?
    by_cases hneg : n < 0
    · simp only [hneg, decide_true, if_true]
      rw [if_neg (by omega)]
      exact congrArg some (by omega)
    · simp only [hneg, decide_false, Bool.false_eq_true, if_false]
      exact congrArg some (by omega)
  show (Number.int? ⟨decide (n < 0), n.natAbs, [], none⟩).filter _ = _
  rw [hint, Option.filter_some, if_pos (by simp [hlow, hhigh])]

instance : LawfulWire Int64 where
  isPlain n := isPlain_int n.toInt
  ofJson?_reread n := by
    show (integer? _ _ (Json.int n.toInt).reread).map _ = _
    rw [integer?_int n.minValue_le_toInt n.toInt_le]
    exact congrArg some (Int64.ofInt_toInt n)

instance : LawfulWire UInt8 where
  isPlain n := isPlain_int n.toNat
  ofJson?_reread n := by
    have hn : (n.toNat : Int) ≤ 255 := by
      have hlt := n.toNat_lt
      omega
    show (integer? _ _ (Json.int n.toNat).reread).map _ = _
    rw [integer?_int (Int.natCast_nonneg _) hn]
    exact congrArg some UInt8.ofNat_toNat

instance : LawfulWire Bool where
  isPlain _ := trivial
  ofJson?_reread _ := rfl

instance : LawfulWire String where
  isPlain _ := trivial
  ofJson?_reread s := textOf?_reread s

instance : LawfulWire Date where
  isPlain _ := trivial
  ofJson?_reread d := by
    show (textOf? ((d.toText.toList.map Piece.char).map Piece.reread)).bind Date.read? = _
    rw [textOf?_reread]
    exact d.read?_toText

theorem reread_text_ne_null (s : String) : (Json.text s).reread ≠ .null :=
  nofun

theorem ofJson?_option [Wire α] {v : Json} (hv : v ≠ .null) :
    (ofJson? v : Option (Option α)) = (ofJson? v).map some := by
  cases v with
  | null => exact absurd rfl hv
  | _ => rfl

/-- Something that is optional comes back, unless it is written like nothing. -/
theorem lawfulWire_option [Wire α] [LawfulWire α] (h : ∀ a : α, (toJson a).reread ≠ .null) :
    LawfulWire (Option α) where
  isPlain a := by
    cases a with
    | none => trivial
    | some a => exact LawfulWire.isPlain a
  ofJson?_reread a := by
    cases a with
    | none => rfl
    | some a => exact (ofJson?_option (h a)).trans (congrArg _ (LawfulWire.ofJson?_reread a))

instance : LawfulWire (Option Int64) :=
  lawfulWire_option nofun

instance : LawfulWire (Option Date) :=
  lawfulWire_option fun d ↦ reread_text_ne_null d.toText

/-- One of some named alternatives comes back if its name tells it. -/
theorem lawfulWire_choice [Wire α] {name : α → String} {ofName? : String → Option α}
    (htoJson : ∀ a, toJson a = Json.text (name a)) (hofJson? : ∀ v, ofJson? v = choice? ofName? v)
    (hname : ∀ a, ofName? (name a) = some a) : LawfulWire α where
  isPlain a := by
    rw [htoJson]
    trivial
  ofJson?_reread a := by
    rw [htoJson, hofJson?]
    show (textOf? (((name a).toList.map Piece.char).map Piece.reread)).bind ofName? = _
    rw [textOf?_reread]
    exact hname a

/-! ### Records -/

/-- The members of a record come back in their order, each with its name. -/
theorem reread_ofFields (fields : List (String × Json)) :
    (ofFields fields).reread =
      .object (fields.map fun p ↦ ((p.1.toList.map Piece.char).map Piece.reread, p.2.reread)) := by
  have hmembers : rereadMembers (fields.map fun p ↦ (p.1.toList.map .char, p.2)) =
      fields.map fun p ↦ ((p.1.toList.map Piece.char).map Piece.reread, p.2.reread) := by
    induction fields with
    | nil => rfl
    | cons p fields ih =>
      rw [List.map_cons, rereadMembers, ih]
      rfl
  exact congrArg Json.object hmembers

/-- A record is plain if all its members are. -/
theorem isPlain_ofFields {fields : List (String × Json)} (h : ∀ p ∈ fields, p.2.IsPlain) :
    (ofFields fields).IsPlain := by
  show MembersPlain (fields.map fun p ↦ (p.1.toList.map .char, p.2))
  induction fields with
  | nil => trivial
  | cons p fields ih =>
    exact ⟨h p (List.mem_cons_self ..), ih fun q hq ↦ h q (List.mem_cons_of_mem p hq)⟩

/-- A member with a known name is added unless there is one already. -/
theorem addField?_reread {names : List String} {fields : Fields} {name : String} {value : Json}
    (hknown : name ∈ names) (hnew : name ∉ fields.map (·.1)) :
    addField? names fields ((name.toList.map Piece.char).map Piece.reread, value) =
      some ((name, value) :: fields) := by
  have hany : fields.any (·.1 == name) = false := by
    rw [List.any_eq_false]
    intro p hp hname
    exact hnew (List.mem_map.2 ⟨p, hp, beq_iff_eq.1 hname⟩)
  rw [addField?, textOf?_reread]
  show (if name ∈ names then _ else _) = _
  rw [if_pos hknown, hany]
  rfl

/-- Members with known names, no two of which are the same, are all added. -/
theorem foldlM_addField? {names : List String} (fields : Fields) {members : List (String × Json)}
    (hknown : ∀ p ∈ members, p.1 ∈ names)
    (hnodup : (fields.map (·.1) ++ members.map (·.1)).Nodup) :
    (members.map fun p ↦ ((p.1.toList.map Piece.char).map Piece.reread, p.2.reread)).foldlM
      (addField? names) fields =
        some ((members.map fun p ↦ (p.1, p.2.reread)).reverse ++ fields) := by
  induction members generalizing fields with
  | nil => rfl
  | cons p members ih =>
    have hnew : p.1 ∉ fields.map (·.1) := fun hmem ↦
      (List.nodup_append.1 hnodup).2.2 _ hmem _ (List.mem_cons_self ..) rfl
    rw [List.map_cons, List.foldlM_cons, addField?_reread (hknown p (List.mem_cons_self ..)) hnew]
    refine (ih _ (fun q hq ↦ hknown q (List.mem_cons_of_mem p hq)) ?_).trans (by simp)
    exact (List.perm_middle.nodup_iff).1 hnodup

/-- The members of a record are found again, the last of them first. -/
theorem fields?_reread {names : List String} {members : List (String × Json)}
    (hmembers : members.map (·.1) = names) (hnames : names.Nodup) :
    fields? names (ofFields members).reread =
      some ((members.map fun p ↦ (p.1, p.2.reread)).reverse) := by
  subst hmembers
  have hadded := foldlM_addField? []
    (fun p hp ↦ List.mem_map.2 ⟨p, hp, rfl⟩) hnames
  rw [reread_ofFields, fields?, hadded, List.append_nil]

theorem lookup_cons (fields : Fields) (n name : String) (v : Json) :
    List.lookup name ((n, v) :: fields) = if name = n then some v else fields.lookup name := by
  rw [List.lookup_cons]
  by_cases h : name = n
  · subst h
    simp
  · rw [if_neg h, beq_false_of_ne h]

@[simp]
theorem required_cons [Wire α] (fields : Fields) (n name : String) (v : Json) :
    Fields.required (α := α) ((n, v) :: fields) name =
      if name = n then ofJson? v else fields.required name := by
  unfold Fields.required
  rw [lookup_cons]
  by_cases h : name = n
  · rw [if_pos h, if_pos h]
    rfl
  · rw [if_neg h, if_neg h]

@[simp]
theorem withDefault_cons [Wire α] (fields : Fields) (n name : String) (v : Json) (default : α) :
    Fields.withDefault ((n, v) :: fields) name default =
      if name = n then ofJson? v else fields.withDefault name default := by
  unfold Fields.withDefault
  rw [lookup_cons]
  by_cases h : name = n
  · rw [if_pos h, if_pos h]
  · rw [if_neg h, if_neg h]

/-- **A record comes back if all its members do**, when it is written with them and made of them
again. No two of them may have the same name. -/
theorem lawfulWire_record [Wire α] {names : List String} {members : α → List (String × Json)}
    {make? : Fields → Option α} (htoJson : ∀ a, toJson a = ofFields (members a))
    (hofJson? : ∀ v, ofJson? v = fields? names v >>= make?) (hnames : names.Nodup)
    (hmembers : ∀ a, (members a).map (·.1) = names)
    (hplain : ∀ a, ∀ p ∈ members a, p.2.IsPlain)
    (hmake : ∀ a, make? ((members a).map fun p ↦ (p.1, p.2.reread)).reverse = some a) :
    LawfulWire α where
  isPlain a := by
    rw [htoJson]
    exact isPlain_ofFields (hplain a)
  ofJson?_reread a := by
    rw [htoJson, hofJson?, fields?_reread (hmembers a) hnames]
    exact hmake a

end PitchDesk
