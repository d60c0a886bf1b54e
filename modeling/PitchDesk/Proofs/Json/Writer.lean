import PitchDesk.Json.Reader
import PitchDesk.Proofs.Json.Token

/-!
# Written values read back

What is written is read token by token, so reading a written value takes the machine to the state
in which this value is complete, whatever the machine has read before, `read?_write`. The induction
goes over values, items and members at once. From outside, a plain value comes back but for the
units in its strings, `read?_toText`.

## The machine

The reader keeps a stack of the arrays and objects that are open, and a state for what may come
next. A state that awaits a value takes every value alike, so `State.Awaits` is all that the
induction has to know of the state before a value; after it, the state says that this value is
complete, and what is done with it then is for the next token to decide. So the values of members
and the items of arrays are cases of one statement, and how deep a value nests is nowhere asked.
-/

namespace PitchDesk.Json

mutual

/-- What comes back of a value. -/
def reread : Json → Json
  | .string s => .string (s.map Piece.reread)
  | .array items => .array (rereadItems items)
  | .object members => .object (rereadMembers members)
  | v => v

/-- What comes back of some values. -/
def rereadItems : List Json → List Json
  | [] => []
  | item :: items => reread item :: rereadItems items

/-- What comes back of some members. -/
def rereadMembers : List (List Piece × Json) → List (List Piece × Json)
  | [] => []
  | (key, value) :: members => (key.map Piece.reread, reread value) :: rereadMembers members

end

mutual

/-- All numbers in a value are plain. -/
def IsPlain : Json → Prop
  | .number n => n.IsPlain
  | .array items => ItemsPlain items
  | .object members => MembersPlain members
  | _ => True

/-- All numbers in some values are plain. -/
def ItemsPlain : List Json → Prop
  | [] => True
  | item :: items => IsPlain item ∧ ItemsPlain items

/-- All numbers in some members are plain. -/
def MembersPlain : List (List Piece × Json) → Prop
  | [] => True
  | (_, value) :: members => IsPlain value ∧ MembersPlain members

end

/-! ### The machine on a text -/

/-- The state that the machine reaches from another when it reads a text. -/
def State.read? (s : State) (cs : List Char) : Option State :=
  (Token.all? cs).bind (·.foldlM State.step? s)

/-- One token takes one step. -/
theorem State.read?_of_all? {s : State} {t : Token} {cs rest : List Char}
    (h : Token.all? cs = (Token.all? rest).map (t :: ·)) :
    s.read? cs = (s.step? t).bind (·.read? rest) := by
  unfold State.read?
  rw [h]
  cases Token.all? rest with
  | none => cases s.step? t <;> rfl
  | some ts => rfl

/-- A value may come, which then is part of what is open. -/
def State.Awaits (s : State) (stack : List Frame) : Prop :=
  ∀ t, t ≠ .closeArray → s.step? t = startValue? stack t

/-- A key may come, in an object that has some members already. -/
def State.AwaitsKey (s : State) (done : List (List Piece × Json)) (stack : List Frame) : Prop :=
  ∀ k, s.step? (.string k) = some (.colon done k stack)

/-- Where a value may come, any value may come. -/
theorem awaits_value (stack : List Frame) : (State.value stack).Awaits stack :=
  fun _ _ ↦ rfl

/-- So may a first item, which only a closing bracket could replace. -/
theorem awaits_firstItem (stack : List Frame) :
    (State.firstItem stack).Awaits (.array [] :: stack) := by
  intro t ht
  cases t <;> first | rfl | exact absurd rfl ht

theorem endsNumber_cons {c : Char} (hc : isNumberChar c = false) (cs : List Char) :
    EndsNumber (c :: cs) := by
  rintro d ⟨⟩
  exact hc

theorem all?_comma (cs : List Char) :
    Token.all? (',' :: cs) = (Token.all? cs).map (.comma :: ·) := by
  rw [Token.all?]

variable {s : State} {stack : List Frame} {t : Token} {cs rest : List Char}

/-- A token that starts something takes the machine there. -/
theorem State.Awaits.read?_of_all? (hs : s.Awaits stack)
    (h : Token.all? cs = (Token.all? rest).map (t :: ·)) {s' : State}
    (hs' : startValue? stack t = some s') : s.read? cs = s'.read? rest := by
  have ht : t ≠ .closeArray := by
    rintro rfl
    cases hs'
  rw [State.read?_of_all? h, hs t ht, hs']
  rfl

/-- A key and its colon take the machine to where the value of the key may come. -/
theorem State.AwaitsKey.read?_writeString {done : List (List Piece × Json)}
    (hs : s.AwaitsKey done stack) (key : List Piece) (cs : List Char) :
    s.read? (writeString key ++ ':' :: cs) =
      (State.value (.object done (key.map Piece.reread) :: stack)).read? cs := by
  rw [State.read?_of_all? (all?_writeString key (':' :: cs)), hs]
  exact State.read?_of_all? (t := .colon) (by rw [Token.all?])

mutual

/-- **A written value takes the machine to the state in which this value is complete.** -/
theorem read?_write (v : Json) (hv : v.IsPlain) {s : State} {stack : List Frame}
    (hs : s.Awaits stack) {cs : List Char} (hcs : EndsNumber cs) :
    s.read? (write v ++ cs) = (State.complete v.reread stack).read? cs := by
  cases v with
  | null => exact hs.read?_of_all? (t := .null) (by simp [write, Token.all?]) rfl
  | bool b =>
    refine hs.read?_of_all? (t := .bool b) ?_ rfl
    cases b <;> simp [write, Token.all?]
  | number n => exact hs.read?_of_all? (all?_write hv hcs) rfl
  | string s => exact hs.read?_of_all? (all?_writeString s cs) rfl
  | array items =>
    have hopen : Token.all? ('[' :: (writeItems items ++ cs)) =
        (Token.all? (writeItems items ++ cs)).map (.openArray :: ·) := by rw [Token.all?]
    show s.read? ('[' :: (writeItems items ++ cs)) = _
    rw [hs.read?_of_all? hopen rfl]
    -- an empty array ends where its first item is awaited, which the lemma on items does not cover
    by_cases hne : items = []
    · subst hne
      exact State.read?_of_all? (t := .closeArray) (by simp [writeItems, Token.all?])
    · exact read?_writeItems items hne hv (awaits_firstItem stack) cs
  | object members =>
    have hopen : Token.all? ('\x7b' :: (writeMembers members ++ cs)) =
        (Token.all? (writeMembers members ++ cs)).map (.openObject :: ·) := by rw [Token.all?]
    show s.read? ('\x7b' :: (writeMembers members ++ cs)) = _
    rw [hs.read?_of_all? hopen rfl]
    by_cases hne : members = []
    · subst hne
      exact State.read?_of_all? (t := .closeObject) (by simp [writeMembers, Token.all?])
    · exact read?_writeMembers members hne hv (s := .firstKey stack) (fun _ ↦ rfl) cs

/-- Written items take the machine to the state in which their array is complete. -/
theorem read?_writeItems (items : List Json) (hne : items ≠ []) (hv : ItemsPlain items)
    {s : State} {done : List Json} {stack : List Frame} (hs : s.Awaits (.array done :: stack))
    (cs : List Char) :
    s.read? (writeItems items ++ cs) =
      (State.complete (.array (done.reverse ++ rereadItems items)) stack).read? cs := by
  match items, hne, hv with
  | [item], _, hv =>
    have hitem := read?_write item hv.1 hs (endsNumber_cons (c := ']') (by decide) cs)
    have hclose : Token.all? (']' :: cs) = (Token.all? cs).map (.closeArray :: ·) := by
      rw [Token.all?]
    rw [writeItems, List.append_assoc, List.singleton_append, hitem, State.read?_of_all? hclose]
    simp [State.step?, rereadItems]
  | item :: next :: items, _, hv =>
    have hitem := read?_write item hv.1 hs
      (endsNumber_cons (c := ',') (by decide) (writeItems (next :: items) ++ cs))
    have hitems := read?_writeItems (next :: items) (List.cons_ne_nil _ _) hv.2
      (awaits_value (.array (item.reread :: done) :: stack)) cs
    rw [writeItems, List.append_assoc, List.cons_append, hitem, State.read?_of_all? (all?_comma _)]
    · refine hitems.trans ?_
      simp [rereadItems]
    · nofun

/-- Written members take the machine to the state in which their object is complete. -/
theorem read?_writeMembers (members : List (List Piece × Json)) (hne : members ≠ [])
    (hv : MembersPlain members) {s : State} {done : List (List Piece × Json)}
    {stack : List Frame} (hs : s.AwaitsKey done stack) (cs : List Char) :
    s.read? (writeMembers members ++ cs) =
      (State.complete (.object (done.reverse ++ rereadMembers members)) stack).read? cs := by
  match members, hne, hv with
  | [(key, value)], _, hv =>
    have hvalue := read?_write value hv.1
      (awaits_value (.object done (key.map Piece.reread) :: stack))
      (endsNumber_cons (c := '\x7d') (by decide) cs)
    have hclose : Token.all? ('\x7d' :: cs) = (Token.all? cs).map (.closeObject :: ·) := by
      rw [Token.all?]
    rw [writeMembers, List.append_assoc, List.append_assoc, List.cons_append,
      hs.read?_writeString, List.singleton_append, hvalue, State.read?_of_all? hclose]
    simp [State.step?, rereadMembers]
  | (key, value) :: next :: members, _, hv =>
    have hvalue := read?_write value hv.1
      (awaits_value (.object done (key.map Piece.reread) :: stack))
      (endsNumber_cons (c := ',') (by decide) (writeMembers (next :: members) ++ cs))
    have hmembers := read?_writeMembers (next :: members) (List.cons_ne_nil _ _) hv.2
      (s := .key ((key.map Piece.reread, value.reread) :: done) stack) (fun _ ↦ rfl) cs
    rw [writeMembers, List.append_assoc, List.append_assoc, List.cons_append,
      hs.read?_writeString, List.cons_append, hvalue, State.read?_of_all? (all?_comma _)]
    · refine hmembers.trans ?_
      simp [rereadMembers]
    · nofun

end

/-- **A plain value that is written and read comes back**, but for the units in its strings. -/
theorem read?_toText {v : Json} (hv : v.IsPlain) : Json.read? v.toText = some v.reread := by
  have hread : (State.value []).read? (write v) = some (.complete v.reread []) := by
    have hend : EndsNumber [] := nofun
    have hcomplete := read?_write v hv (awaits_value []) hend
    rw [List.append_nil] at hcomplete
    rw [hcomplete, State.read?, Token.all?]
    rfl
  obtain ⟨ts, hts, hstate⟩ := Option.bind_eq_some_iff.1 hread
  rw [Json.read?, toText, String.toList_ofList, hts]
  show ofTokens? ts = _
  rw [ofTokens?, hstate]

end PitchDesk.Json
