import Biblio.Equiv.Ecrit
import Biblio.Equiv.Statement

/-!
# The loan validator and the loan save

The two rules on a new loan are coded twice.  `EmpruntRulesValidator` asks the database, and leaves
a loan alone that has no member, no book or a return date; `persistEntity` walks the collections of
the book and of the member, whatever the loan is like.  `alone_persistEntity` and
`of_answer_persistEntity` say when the second lets a loan through.

On an object of the form NEW the two agree exactly when both associations are set and, if the loan
is already returned, the rules hold all the same (`validator_agrees_with_save_iff`).
-/

namespace Biblio

open Prog

/-- The rules of `persistEntity` for a loan of the book `l` by the member `u`. -/
structure Pretable (s : Tables) (u l : ℕ) : Prop where
  libre : s.enCoursLivre l = 0
  quota : s.enCoursUtilisateur u < 5

/-- The tables after a loan of the book `l` by the member `u` is saved. -/
def avecPret (s : Tables) (e : Emprunt) (now : Instant) (u l : ℕ) : Tables :=
  { s with
    emprunt := s.emprunt.insert
      ⟨0, e.dateEmprunt.getD (toDatetime now), e.dateRetour, u, l⟩
    reservations := sansResa s (EmpruntCrudController.reservationDe l u s) }

/-! ### `persistEntity` -/

/-- `reservationDe` finds the member's reservation of the book. -/
theorem reservationDe_eq_some {l u : ℕ} {s : Tables} {r : ReservationsRow}
    (h : EmpruntCrudController.reservationDe l u s = some r) :
    r ∈ s.reservations.rows ∧ r.livre = l ∧ r.utilisateur = u := by
  refine ⟨List.mem_of_find?_eq_some h, ?_⟩
  simpa using List.find?_some h

theorem commit_persistStatements_avecPret {s : Tables} {e : Emprunt} {u l : ℕ} (now : Instant)
    (hu : e.utilisateur = some u) (hl : e.livre = some l) (hhasU : s.hasUtilisateur u = true)
    (hhasL : s.hasLivre l = true) :
    commit (EmpruntCrudController.persistStatements
      { e with dateEmprunt := some (e.dateEmprunt.getD (toDatetime now)) }
      (EmpruntCrudController.reservationDe l u s)) s = some (avecPret s e now u l) := by
  unfold avecPret
  cases EmpruntCrudController.reservationDe l u s with
  | none =>
    simp [EmpruntCrudController.persistStatements, commit, Database.exec, exec, sansResa, hu, hl,
      hhasU, hhasL]
  | some resa =>
    simp [EmpruntCrudController.persistStatements, commit, Database.exec, exec, sansResa, hu, hl,
      hhasU, hhasL]

/-- A loan of an existing book by an existing member that keeps to the rules is saved. -/
theorem alone_persistEntity {s : Tables} {e : Emprunt} {u l : ℕ} (now : Instant)
    (hu : e.utilisateur = some u) (hl : e.livre = some l) (hhasU : s.hasUtilisateur u = true)
    (hhasL : s.hasLivre l = true) (h : Pretable s u l) :
    (EmpruntCrudController.persistEntity e now).alone s = (avecPret s e now u l, .enregistre) := by
  have hlibre : getIsEmprunte (s.emprunt.select fun e => e.livre == l) = false :=
    (getIsEmprunte_eq_false_iff s l).mpr h.libre
  have hquota : ¬ compterEnCours (s.emprunt.select fun e => e.utilisateur == u) ≥ 5 := by
    have := h.quota
    rw [compterEnCours_eq]
    omega
  have hcommit := commit_persistStatements_avecPret now hu hl hhasU hhasL
  simp only [hl, hu] at hcommit
  unfold EmpruntCrudController.persistEntity
  simp only [hl, hu, read_bind, save_bind, alone_query, hlibre, hquota, Bool.false_eq_true,
    if_false]
  rw [alone_flush_some hcommit]
  rfl

/-- A loan that is saved has both associations and keeps to the rules. -/
theorem of_answer_persistEntity {s : Tables} {e : Emprunt} {now : Instant}
    (h : (EmpruntCrudController.persistEntity e now).answer s = .enregistre) :
    ∃ u l, e.utilisateur = some u ∧ e.livre = some l ∧ Pretable s u l := by
  unfold answer EmpruntCrudController.persistEntity at h
  split at h
  · cases h
  · next l hl =>
    simp only [read_bind, alone_query] at h
    split at h
    · cases h
    · next hemp =>
      split at h
      · cases h
      · next u hu =>
        simp only [alone_query] at h
        split at h
        · cases h
        · next hquota =>
          rw [compterEnCours_eq] at hquota
          have hlibre := (getIsEmprunte_eq_false_iff s l).mp (by simpa using hemp)
          exact ⟨u, l, hu, hl, hlibre, by omega⟩

/-! ### The page NEW -/

/-- A submitted loan that the checks of the page NEW let through. -/
structure NewAccepte (s : Tables) (form : Emprunt) (u l : ℕ) : Prop extends Pretable s u l where
  dateEmprunt : form.dateEmprunt ≠ none
  utilisateur : form.utilisateur = some u
  livre : form.livre = some l
  hasUtilisateur : s.hasUtilisateur u = true
  hasLivre : s.hasLivre l = true

/-- The member and the book of a form are rows. -/
structure Designe (s : Tables) (form : Emprunt) (u l : ℕ) : Prop where
  utilisateur : form.utilisateur = some u
  livre : form.livre = some l
  hasUtilisateur : s.hasUtilisateur u = true
  hasLivre : s.hasLivre l = true

/-- The two association fields accept such a form. -/
theorem Designe.answer_choix {s : Tables} {form : Emprunt} {u l : ℕ} (h : Designe s form u l) :
    (choixUtilisateur form.utilisateur).answer s ++ (choixLivre form.livre).answer s = [] := by
  rw [List.append_eq_nil_iff, answer_choixUtilisateur_eq_nil_iff, answer_choixLivre_eq_nil_iff,
    h.utilisateur, h.livre]
  constructor
  · intro u' hu'
    obtain rfl := Option.some.inj hu'
    exact h.hasUtilisateur
  · intro l' hl'
    obtain rfl := Option.some.inj hl'
    exact h.hasLivre

theorem NewAccepte.designe {s : Tables} {form : Emprunt} {u l : ℕ} (h : NewAccepte s form u l) :
    Designe s form u l :=
  ⟨h.utilisateur, h.livre, h.hasUtilisateur, h.hasLivre⟩

theorem NewAccepte.answer_validate {s : Tables} {form : Emprunt} {u l : ℕ}
    (h : NewAccepte s form u l) :
    (EmpruntRulesValidator.validate { form with id := none }).answer s = [] := by
  rw [EmpruntRulesValidator.answer_validate_eq_nil_iff]
  intro u' l' hu' hl' _
  obtain rfl : u = u' := Option.some.inj (h.utilisateur.symm.trans hu')
  obtain rfl : l = l' := Option.some.inj (h.livre.symm.trans hl')
  -- a new loan has no id, so nothing is excluded from the counts
  show s.emprunt.others 0 _ < 5 ∧ s.emprunt.others 0 _ = 0
  rw [Table.others_zero, Table.others_zero]
  exact ⟨h.quota, h.libre⟩

/-- An accepted new loan is saved, with the removal of the borrower's reservation. -/
theorem NewAccepte.alone_new {s : Tables} {form : Emprunt} {u l : ℕ} (now : Instant)
    (h : NewAccepte s form u l) :
    (EmpruntCrudController.new form now).alone s = (avecPret s form now u l, .enregistre) := by
  unfold EmpruntCrudController.new
  rw [alone_bind_of_after _ _ _ (after_choixUtilisateur s _),
    alone_bind_of_after _ _ _ (after_choixLivre s _), if_neg h.dateEmprunt,
    if_pos h.designe.answer_choix,
    alone_bind_of_after _ _ _ (EmpruntRulesValidator.after_validate _ s),
    if_pos h.answer_validate,
    alone_persistEntity (e := { form with id := none }) now h.utilisateur h.livre h.hasUtilisateur
      h.hasLivre h.toPretable]
  rfl

theorem NewAccepte.after_new {s : Tables} {form : Emprunt} {u l : ℕ} (now : Instant)
    (h : NewAccepte s form u l) :
    (EmpruntCrudController.new form now).after s = avecPret s form now u l :=
  congrArg Prod.fst (h.alone_new now)

/-! ### The page EDIT -/

/-- An edition that the validator accepts is saved. -/
theorem Designe.after_edit {s : Tables} {entityId : ℕ} {form : Emprunt} {u l : ℕ}
    {row : EmpruntRow} (h : Designe s form u l) (hrow : s.emprunt.find entityId = some row)
    (hdate : form.dateEmprunt ≠ none)
    (hok : EmpruntRulesValidator.Accepte s { form with id := some entityId }) :
    ∃ s', exec (.updateEmprunt entityId row { form with id := some entityId }) s = some s' ∧
      (EmpruntCrudController.edit entityId form).after s = s' := by
  obtain ⟨date, hdate⟩ := Option.ne_none_iff_exists'.mp hdate
  obtain ⟨s', hs'⟩ : ∃ s', exec (.updateEmprunt entityId row { form with id := some entityId }) s
      = some s' := by
    simp [exec, hdate, h.utilisateur, h.livre, h.hasUtilisateur, h.hasLivre]
  refine ⟨s', hs', ?_⟩
  unfold EmpruntCrudController.edit
  simp only [read_bind, after_query, hrow]
  rw [after_bind _ _ _ (after_choixUtilisateur s _), after_bind _ _ _ (after_choixLivre s _),
    if_neg (by rw [hdate]; exact Option.some_ne_none _), if_pos h.answer_choix,
    after_bind _ _ _ (EmpruntRulesValidator.after_validate _ s),
    if_pos ((EmpruntRulesValidator.answer_validate_eq_nil_iff _ s).mpr hok), save_bind]
  exact after_flush_singleton hs' _

/-! ### Agreement -/

/-- An object the form NEW can produce: without id, its associations null or existing rows. -/
structure Emprunt.DuFormulaireNew (s : Tables) (e : Emprunt) : Prop where
  id : e.id = none
  utilisateur : ∀ u, e.utilisateur = some u → s.hasUtilisateur u = true
  livre : ∀ l, e.livre = some l → s.hasLivre l = true

/-- `persistEntity` completes and inserts the loan. -/
def EstInsere (s : Tables) (e : Emprunt) (now : Instant) : Prop :=
  (EmpruntCrudController.persistEntity e now).answer s = .enregistre ∧
    ∃ row : EmpruntRow, row.dateEmprunt = e.dateEmprunt.getD (toDatetime now) ∧
      row.dateRetour = e.dateRetour ∧ some row.utilisateur = e.utilisateur ∧
      some row.livre = e.livre ∧
      ((EmpruntCrudController.persistEntity e now).after s).emprunt = s.emprunt.insert row

/-- Both associations are set and, if the loan is already returned, the rules hold. -/
def Saisissable (s : Tables) (e : Emprunt) : Prop :=
  ∃ u l, e.utilisateur = some u ∧ e.livre = some l ∧ (e.dateRetour ≠ none → Pretable s u l)

theorem estInsere_iff {s : Tables} {e : Emprunt} (he : e.DuFormulaireNew s) (now : Instant) :
    EstInsere s e now ↔ ∃ u l, e.utilisateur = some u ∧ e.livre = some l ∧ Pretable s u l := by
  constructor
  · exact fun h => of_answer_persistEntity h.1
  · rintro ⟨u, l, hu, hl, hok⟩
    have halone := alone_persistEntity now hu hl (he.utilisateur u hu) (he.livre l hl) hok
    unfold EstInsere answer after
    rw [halone]
    exact ⟨rfl, _, rfl, rfl, hu.symm, hl.symm, rfl⟩

/-- The validator checks an open loan against all the open loans there are. -/
theorem answer_validate_iff {s : Tables} {e : Emprunt} (he : e.id = none) :
    (EmpruntRulesValidator.validate e).answer s = [] ↔
      ∀ u l, e.utilisateur = some u → e.livre = some l → e.dateRetour = none →
        Pretable s u l := by
  rw [EmpruntRulesValidator.answer_validate_eq_nil_iff, EmpruntRulesValidator.Accepte, he]
  refine forall_congr' fun u => forall_congr' fun l => forall_congr' fun _ => forall_congr'
    fun _ => forall_congr' fun _ => ?_
  show s.emprunt.others 0 _ < 5 ∧ s.emprunt.others 0 _ = 0 ↔ _
  rw [Table.others_zero, Table.others_zero]
  exact ⟨fun h => ⟨h.2, h.1⟩, fun h => ⟨h.quota, h.libre⟩⟩

/-- **Validator and save.**  On an object of the form NEW, whatever the tables: that the validator
reports nothing exactly when `persistEntity` inserts the loan holds exactly when both associations
are set and, for a loan that is already returned, the rules hold. -/
theorem validator_agrees_with_save_iff (s : Tables) (e : Emprunt) (now : Instant)
    (he : e.DuFormulaireNew s) :
    ((EmpruntRulesValidator.validate e).answer s = [] ↔ EstInsere s e now) ↔
      Saisissable s e := by
  rw [answer_validate_iff he.id, estInsere_iff he now]
  constructor
  · intro hagree
    by_cases hfull : ∃ u l, e.utilisateur = some u ∧ e.livre = some l
    · obtain ⟨u, l, hu, hl⟩ := hfull
      refine ⟨u, l, hu, hl, fun hclosed => ?_⟩
      -- the validator does not look at a returned loan
      obtain ⟨u', l', hu', hl', hok⟩ := hagree.mp fun _ _ _ _ hopen => absurd hopen hclosed
      obtain rfl : u = u' := Option.some.inj (hu.symm.trans hu')
      obtain rfl : l = l' := Option.some.inj (hl.symm.trans hl')
      exact hok
    · -- nor at one without member or book
      obtain ⟨u, l, hu, hl, -⟩ := hagree.mp fun u l hu hl _ => absurd ⟨u, l, hu, hl⟩ hfull
      exact absurd ⟨u, l, hu, hl⟩ hfull
  · rintro ⟨u, l, hu, hl, hclosed⟩
    constructor
    · intro hvalid
      refine ⟨u, l, hu, hl, ?_⟩
      by_cases hopen : e.dateRetour = none
      · exact hvalid u l hu hl hopen
      · exact hclosed hopen
    · rintro ⟨u', l', hu', hl', hok⟩ u'' l'' hu'' hl'' _
      obtain rfl : u' = u'' := Option.some.inj (hu'.symm.trans hu'')
      obtain rfl : l' = l'' := Option.some.inj (hl'.symm.trans hl'')
      exact hok

/-- An open loan of a free book. -/
theorem validator_agrees_with_save_open_loan :
    (EmpruntRulesValidator.validate (Exemple.pret 5 1)).answer (Exemple.tables .empty .empty) = [] ∧
      ((EmpruntRulesValidator.validate (Exemple.pret 5 1)).answer (Exemple.tables .empty .empty)
        = [] ↔ EstInsere (Exemple.tables .empty .empty) (Exemple.pret 5 1) 0) := by
  refine ⟨by decide, ?_⟩
  have hform : (Exemple.pret 5 1).DuFormulaireNew (Exemple.tables .empty .empty) := by
    refine ⟨rfl, fun u hu => ?_, fun l hl => ?_⟩
    · obtain rfl := Option.some.inj hu
      decide
    · obtain rfl := Option.some.inj hl
      decide
  exact (validator_agrees_with_save_iff _ _ 0 hform).mpr ⟨5, 1, rfl, rfl, fun h => absurd rfl h⟩

/-- The loan of a borrowed book that is recorded as already returned, and a loan without a book:
the validator reports nothing, and `persistEntity` throws. -/
theorem validator_passes_what_save_refuses :
    let s := Exemple.tables (Table.empty.insert ⟨0, 0, none, 6, 1⟩) .empty
    let rendu : Emprunt := ⟨none, some 0, some 5, some 5, some 1⟩
    let sansLivre : Emprunt := ⟨none, none, none, some 5, none⟩
    ((EmpruntRulesValidator.validate rendu).answer s = [] ∧
      (EmpruntCrudController.persistEntity rendu 0).answer s
        = .exception 500 "Impossible : Ce livre est déjà emprunté." ∧ ¬ EstInsere s rendu 0) ∧
    (EmpruntRulesValidator.validate sansLivre).answer s = [] ∧
      (EmpruntCrudController.persistEntity sansLivre 0).answer s
        = .exception 500 "Call to a member function getIsEmprunte() on null" ∧
      ¬ EstInsere s sansLivre 0 := by
  intro s rendu sansLivre
  refine ⟨⟨by decide, by decide, fun h => ?_⟩, by decide, by decide, fun h => ?_⟩
  · exact absurd h.1 (by decide)
  · exact absurd h.1 (by decide)

end Biblio
