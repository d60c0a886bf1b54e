import PitchDesk.Access.Rule
import PitchDesk.Proofs.RowAction
import PitchDesk.Sample.Accounts
import PitchDesk.Sample.Records

/-!
# Granting more takes nothing away

Rules are put together from permissions and roles by `any` and `all`. None of them asks that
something is not permitted, so a user who may do more, in the same role, still meets every rule
that was met before: `Rule.evaluate_of_within`. The induction is on the rule, and on the lists of
rules inside it at the same time.

What a user can do in a view and the menu of a row are worked out from rules, so they only grow.
The role has to stay, since a rule may ask for one role and not for another. A session permits what
one of its permissions grants, so more permissions permit more, whatever they are and in whatever
order they come.

The order `Oracle.Within` is one of what is permitted and not of how it was granted: the
permissions of a session enter only in `Session.oracle_within`, wildcards included.
`granting_takes_nothing_away` is for all rules and descriptors that can be written, and not only
for those of the views that there are.
-/

namespace PitchDesk

/-- The second user has the role of the first and may do whatever the first may. -/
structure Oracle.Within (o o' : Oracle) : Prop where
  role : o.role = o'.role
  permits : ∀ resource action, o.permits resource action = true → o'.permits resource action = true

variable {o o' : Oracle}

/-! ### Rules -/

namespace Rule

mutual

/-- Who may do more, in the same role, meets every rule that was met before. -/
theorem evaluate_of_within (h : o.Within o') :
    ∀ r : Rule, r.evaluate o = true → r.evaluate o' = true
  | .always, _ => by rw [evaluate]
  | .never, hr => by
    rw [evaluate] at hr
    cases hr
  | .require resource action, hr => by
    rw [evaluate] at hr ⊢
    exact h.permits _ _ hr
  | .roleIn roles, hr => by
    rw [evaluate] at hr ⊢
    rwa [← h.role]
  | .any rules, hr => by
    rw [evaluate] at hr ⊢
    exact evaluateAny_of_within h rules hr
  | .all rules, hr => by
    rw [evaluate] at hr ⊢
    exact evaluateAll_of_within h rules hr

theorem evaluateAny_of_within (h : o.Within o') :
    ∀ rules : List Rule, evaluateAny o rules = true → evaluateAny o' rules = true
  | [], hr => by
    rw [evaluateAny] at hr
    cases hr
  | r :: rules, hr => by
    rw [evaluateAny, Bool.or_eq_true] at hr ⊢
    exact hr.imp (evaluate_of_within h r) (evaluateAny_of_within h rules)

theorem evaluateAll_of_within (h : o.Within o') :
    ∀ rules : List Rule, evaluateAll o rules = true → evaluateAll o' rules = true
  | [], _ => by rw [evaluateAll]
  | r :: rules, hr => by
    rw [evaluateAll, Bool.and_eq_true] at hr ⊢
    exact hr.imp (evaluate_of_within h r) (evaluateAll_of_within h rules)

end

end Rule

/-! ### Views -/

/-- Without a rule of its own, managing takes one of three other things, each of which is kept. -/
theorem Descriptor.evaluate_within (h : o.Within o') (d : Descriptor) :
    (d.evaluate o).Within (d.evaluate o') where
  view := Rule.evaluate_of_within h d.view
  create := Rule.evaluate_of_within h d.create
  update := Rule.evaluate_of_within h d.update
  delete := Rule.evaluate_of_within h d.delete
  exportRows := Rule.evaluate_of_within h d.exportRows
  shortlist := Rule.evaluate_of_within h d.shortlist
  manage := by
    intro hmanage
    cases hrule : d.manage with
    | some rule =>
      simp only [evaluate, hrule] at hmanage ⊢
      exact Rule.evaluate_of_within h rule hmanage
    | none =>
      simp only [evaluate, hrule, Bool.or_eq_true] at hmanage ⊢
      exact hmanage.imp
        (Or.imp (Rule.evaluate_of_within h d.create) (Rule.evaluate_of_within h d.update))
        (Rule.evaluate_of_within h d.delete)

/-! ### Sessions -/

namespace Permission

/-- A permission that is inserted is there, and so are the others. -/
theorem mem_insert {p q : Permission} {ps : List Permission} :
    q ∈ insert p ps ↔ q = p ∨ q ∈ ps := by
  induction ps with
  | nil => simp [insert]
  | cons r ps ih =>
    rw [insert]
    split_ifs with hsame hbefore
    · subst hsame
      simp
    · rw [List.mem_cons]
    · rw [List.mem_cons, List.mem_cons, ih, or_left_comm]

/-- A permission that is granted twice is kept once, and none gets lost. -/
theorem mem_ordered {q : Permission} {ps : List Permission} : q ∈ ordered ps ↔ q ∈ ps := by
  induction ps with
  | nil => rfl
  | cons p ps ih =>
    rw [ordered, List.foldr_cons, ← ordered, mem_insert, ih, List.mem_cons]

end Permission

/-- More permissions, in the same role, permit more. -/
theorem Session.oracle_within {token token' : String} {user : SessionUser}
    {grants grants' : List Permission} (h : grants ⊆ grants') :
    (ofGrants token user grants).oracle.Within (ofGrants token' user grants').oracle where
  role := rfl
  permits := by
    intro resource action hpermits
    obtain ⟨p, hp, hgrants⟩ := List.any_eq_true.1 hpermits
    exact List.any_eq_true.2
      ⟨p, Permission.mem_ordered.2 (h (Permission.mem_ordered.1 hp)), hgrants⟩

/-! ### What a user keeps -/

/-- **Granting more takes nothing away.** Let a second user have the role of a first one and be
permitted whatever the first is. Then the second meets every rule that the first meets, can do in
every view what the first can do there, whatever the rules of the view are, and has in the menu of
every row the items that the first has, in the same order. The user of a session becomes such a
second user by getting permissions, wildcards or others, beside those that the session has. -/
theorem granting_takes_nothing_away :
    (∀ o o' : Oracle, o.Within o' →
      (∀ r : Rule, r.evaluate o = true → r.evaluate o' = true) ∧
      (∀ d : Descriptor, (d.evaluate o).Within (d.evaluate o')) ∧
      ∀ (v : Resource) (row : Record),
        (row.actions ((Descriptor.ofResource v).evaluate o)).items.Sublist
          (row.actions ((Descriptor.ofResource v).evaluate o')).items) ∧
    ∀ (token token' : String) (user : SessionUser) (grants grants' : List Permission),
      grants ⊆ grants' →
        (Session.ofGrants token user grants).oracle.Within
          (Session.ofGrants token' user grants').oracle := by
  refine ⟨fun o o' h ↦ ⟨Rule.evaluate_of_within h, Descriptor.evaluate_within h, fun v row ↦ ?_⟩,
    fun _ _ _ _ _ ↦ Session.oracle_within⟩
  exact Record.actions_sublist (Descriptor.evaluate_within h _) row

/-- A client who may only read the submissions can just view a pitch. Whoever may also do anything
with submissions and change events still has that item, before all others. -/
theorem client_keeps_view :
    let grants : List Permission := [⟨"submissions", "read"⟩]
    let more : List Permission := [⟨"events", "update"⟩, ⟨"submissions", Permission.wildcard⟩]
    let o := (Sample.session .client grants).oracle
    let o' := (Sample.session .client (more ++ grants)).oracle
    let pitch : Record :=
      .submission ⟨5, 7, "Gala", 3, "Acme", "Sound", .pending, Sample.firstDay⟩
    let items (o : Oracle) :=
      (pitch.actions ((Descriptor.ofResource .submissions).evaluate o)).items
    (items o).map (·.label) = ["View"] ∧
      (items o').map (·.label) =
        ["View", "Edit", "Upload document", "Shortlist", "Export", "Delete"] ∧
      (items o).Sublist (items o') := by
  intro grants more o o' pitch items
  have hwithin : o.Within o' :=
    granting_takes_nothing_away.2 _ _ _ _ _ (List.subset_append_right more grants)
  exact ⟨by decide +kernel, by decide +kernel,
    (granting_takes_nothing_away.1 _ _ hwithin).2.2 .submissions pitch⟩

end PitchDesk
