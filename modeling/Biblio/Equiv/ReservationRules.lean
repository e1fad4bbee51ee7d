import Biblio.Equiv.Ecrit
import Biblio.Equiv.Statement

/-!
# The reservation rules over whole runs

The counterpart of `Biblio.Equiv.LoanRules` for the table `reservations`: if the number of
reservations of a book grows it is one afterwards, and if that of a member grows it is at most
three (`reglesResas_apres`), so in every state reached from an empty table a book has at most one
reservation and a member at most three.  The API and the validator implement the rules twice; both
end in a row checked against the other reservations (`reglesResas_of_row`).
-/

namespace Biblio

open Prog

/-- The reservation rules, as a condition on a change of the tables. -/
structure ReglesResas (s s' : Tables) : Prop where
  livre : ∀ l, s.resasLivre l < s'.resasLivre l → s'.resasLivre l = 1
  utilisateur : ∀ u, s.resasUtilisateur u < s'.resasUtilisateur u → s'.resasUtilisateur u ≤ 3

theorem ReglesResas.of_le {s s' : Tables}
    (h : ∀ p, s'.reservations.count p ≤ s.reservations.count p) : ReglesResas s s' where
  livre l hl := by
    have := h (resaSurLivre l)
    unfold Tables.resasLivre at hl
    omega
  utilisateur u hu := by
    have := h (resaParUtilisateur u)
    unfold Tables.resasUtilisateur at hu
    omega

/-- One row is added to `base`, a part of the reservations there were, and was checked against
it. -/
theorem reglesResas_of_row {s s' : Tables} {base : (ReservationsRow → Bool) → ℕ}
    (row : ReservationsRow) (hle : ∀ p, base p ≤ s.reservations.count p)
    (hcount : ∀ p, s'.reservations.count p = base p + (p row).toNat)
    (hu : base (resaParUtilisateur row.utilisateur) < 3)
    (hl : base (resaSurLivre row.livre) = 0) : ReglesResas s s' where
  livre l hgrow := by
    have hbound := count_le_of_grows (n := 1) (hle (resaSurLivre l)) (hcount (resaSurLivre l))
      (fun hrow => by
        simp only [resaSurLivre, beq_iff_eq] at hrow
        rw [← hrow]
        omega) hgrow
    unfold Tables.resasLivre at hgrow ⊢
    omega
  utilisateur u hgrow :=
    count_le_of_grows (hle (resaParUtilisateur u)) (hcount (resaParUtilisateur u))
      (fun hrow => by
        simp only [resaParUtilisateur, beq_iff_eq] at hrow
        rw [← hrow]
        exact hu) hgrow

/-- A reservation inserted for a book without one and a member with fewer than three. -/
theorem reglesResas_insert {v : Reservations} {s s' : Tables}
    (hok : ∀ u l, v.utilisateur = some u → v.livre = some l →
      s.resasUtilisateur u < 3 ∧ s.resasLivre l = 0)
    (hins : exec (.insertReservations v) s = some s') : ReglesResas s s' := by
  obtain ⟨row, hrow, rfl⟩ := exec_insertReservations hins
  obtain ⟨hu, hl⟩ := hok _ _ hrow.utilisateur hrow.livre
  exact reglesResas_of_row (Keyed.withKey s.reservations.next row)
    (fun _ => Nat.le_refl _) (fun _ => Table.count_insert _ _ _) hu hl

/-- The validator checks a new reservation against all those there are. -/
theorem ReservationRulesValidator.Accepte.of_new {s : Tables} {form : Reservations}
    (h : ReservationRulesValidator.Accepte s { form with id := none }) {u l : ℕ}
    (hu : form.utilisateur = some u) (hl : form.livre = some l) :
    s.resasUtilisateur u < 3 ∧ s.resasLivre l = 0 ∧ s.enCoursLivre l = 0 := by
  obtain ⟨h1, h2, h3⟩ := h u l hu hl
  change s.reservations.others 0 _ < 3 at h1
  change s.reservations.others 0 _ = 0 at h2
  rw [Table.others_zero] at h1 h2
  exact ⟨h1, h2, h3⟩

/-- **One request.**  Whatever the tables, a request keeps to the reservation rules. -/
theorem reglesResas_apres (services : Services) (s : Tables) (r : Requete) :
    ReglesResas s (r.apres services s) := by
  apply apres_induct services s r (.of_le fun _ => Nat.le_refl _)
  intro ws s' hecrit hc
  cases hecrit with
  | reservationsNew hok =>
    refine reglesResas_insert (fun u l hu hl => ?_) (commit_singleton hc)
    obtain ⟨h1, h2, -⟩ := hok.of_new hu hl
    exact ⟨h1, h2⟩
  | reservationsEdit hrow hok =>
    obtain ⟨row, -, hcomplete, hcount⟩ := exec_updateReservations hrow (commit_singleton hc)
    obtain ⟨hu, hl, -⟩ := hok _ _ hcomplete.utilisateur hcomplete.livre
    exact reglesResas_of_row _ (fun p => s.reservations.others_le_count _ p) hcount hu hl
  | apiCreate hquota hresa hlibre =>
    refine reglesResas_insert (fun u l hu hl => ?_) (commit_singleton hc)
    obtain rfl := Option.some.inj hu
    obtain rfl := Option.some.inj hl
    exact ⟨hquota, hresa⟩
  | empruntNew =>
    refine .of_le (commit_reservations_count_le (fun w hw => ?_) hc)
    rcases List.mem_cons.mp hw with rfl | hw
    · exact Or.inl Relation.noConfusion
    · exact Or.inr (eq_delete_of_mem_toList hw)
  | transformerEnEmprunt =>
    refine .of_le (commit_reservations_count_le (fun w hw => ?_) hc)
    rcases List.mem_cons.mp hw with rfl | hw
    · exact Or.inl Relation.noConfusion
    · exact Or.inr ⟨_, List.mem_singleton.mp hw⟩
  | utilisateurDelete | livreDelete =>
    refine .of_le (commit_reservations_count_le (fun w hw => ?_) hc)
    exact sansAjoutResa_of_mem_deletes Relation.noConfusion hw
  | reservationsDelete | apiDelete =>
    refine .of_le (commit_reservations_count_le (fun w hw => ?_) hc)
    exact Or.inr ⟨_, List.mem_singleton.mp hw⟩
  | _ =>
    refine .of_le fun p => Nat.le_of_eq ?_
    rw [(exec_frame (commit_singleton hc)).reservations Relation.noConfusion]

/-! ### Runs -/

/-- Every book has at most one reservation, every member at most three. -/
structure ResasBornees (s : Tables) : Prop where
  livre : ∀ l, s.resasLivre l ≤ 1
  utilisateur : ∀ u, s.resasUtilisateur u ≤ 3

theorem ResasBornees.of_rows_eq_nil {s : Tables} (h : s.reservations.rows = []) :
    ResasBornees s where
  livre l := by simp [Tables.resasLivre, Table.count, h]
  utilisateur u := by simp [Tables.resasUtilisateur, Table.count, h]

theorem ResasBornees.of_regles {s s' : Tables} (hs : ResasBornees s) (h : ReglesResas s s') :
    ResasBornees s' where
  livre l := by
    have hs := hs.livre l
    have h := h.livre l
    omega
  utilisateur u := by
    have hs := hs.utilisateur u
    have h := h.utilisateur u
    omega

theorem resasBornees_executer (services : Services) {s : Tables} (hs : ResasBornees s)
    (rs : List Requete) : ResasBornees (executer services s rs) :=
  run_preserves _ (fun s r h => h.of_regles (reglesResas_apres services s r)) rs s hs

/-- **Reservation rules.**  From any tables, no request takes the reservations of a book above
one nor those of a member above three; and in every state reached from an empty table
`reservations`, by any requests, no book has two reservations and no member four. -/
theorem reservation_rules (services : Services) :
    (∀ (s : Tables) (r : Requete), ReglesResas s (r.apres services s)) ∧
    (∀ (s : Tables) (rs : List Requete), s.reservations.rows = [] →
      ResasBornees (executer services s rs)) :=
  ⟨reglesResas_apres services,
    fun _ rs h => resasBornees_executer services (.of_rows_eq_nil h) rs⟩

/-- A reservation is made, a second one of the same book is refused. -/
theorem reservation_rules_two_creates :
    (executer Exemple.services (Exemple.tables .empty .empty)
      [.apiCreate 5 1 0, .apiCreate 6 1 0]).resasLivre 1 = 1 ∧
    ResasBornees (executer Exemple.services (Exemple.tables .empty .empty)
      [.apiCreate 5 1 0, .apiCreate 6 1 0]) :=
  ⟨by decide, (reservation_rules Exemple.services).2 _ _ rfl⟩

end Biblio
