import Biblio.Equiv.LoanSave

/-!
# Reservations that vanish

A reservation goes for a reason if the request deletes it, its member or its book, or else makes it
into an open loan.  A request whose unit of work has no deletion of a reservation leaves it
(`find_reservations_commit`), so only the requests that delete one are looked at, and of these only
the page NEW of loans can do it for another reason: it removes the borrower's reservation whatever
the return date of the loan, and the form also serves to record loans that are already returned.

`vanishing_justified_iff`: a run takes no reservation away without a reason exactly when none of
its requests is an accepted NEW of a returned loan on a book its borrower has reserved.
-/

namespace Biblio

open Prog

/-- The request deletes the reservation, its member or its book. -/
def Requete.Supprime (r : Requete) (resa : ReservationsRow) : Prop :=
  match r with
  | .apiDelete _ id | .reservationsDelete id => id = resa.id
  | .utilisateurDelete _ id => id = resa.utilisateur
  | .livreDelete _ id => id = resa.livre
  | _ => False

/-- An open loan of the reserved book by its member is there that was not there before. -/
def PretOuvert (s s' : Tables) (resa : ReservationsRow) : Prop :=
  ∃ e ∈ s'.emprunt.rows, s.emprunt.find e.id = none ∧ e.livre = resa.livre ∧
    e.utilisateur = resa.utilisateur ∧ e.dateRetour = none

/-- Every reservation that a request takes away is deleted on purpose or made into an open loan. -/
def Justifie (services : Services) (s : Tables) (r : Requete) : Prop :=
  ∀ resa ∈ s.reservations.rows, (r.apres services s).reservations.find resa.id = none →
    r.Supprime resa ∨ PretOuvert s (r.apres services s) resa

/-- A request is not an accepted NEW of a returned loan on a book its borrower has reserved. -/
def SansPretRendu (s : Tables) : Requete → Prop
  | .empruntNew form _ => form.dateRetour ≠ none → ∀ u l, NewAccepte s form u l →
      ∀ resa ∈ s.reservations.rows, ¬ (resa.livre = l ∧ resa.utilisateur = u)
  | _ => True

/-! ### Statements -/

/-- A reservation stays where it is not deleted. -/
theorem find_reservations_exec {w : Statement} {s s' : Tables} (h : exec w s = some s') {k : ℕ}
    (hw : w ≠ .deleteReservations k) (hk : s.reservations.find k ≠ none) :
    s'.reservations.find k ≠ none := by
  by_cases hcible : w.cible = .reservations
  · cases w with
    | insertReservations v =>
      obtain ⟨row, -, rfl⟩ := exec_insertReservations h
      obtain ⟨r, hr⟩ := Option.ne_none_iff_exists'.mp hk
      have hlt := s.reservations.lt_next r (Table.mem_of_find hr)
      rw [Table.key_of_find hr] at hlt
      rw [Table.find_insert_of_ne _ row (Nat.ne_of_lt hlt)]
      exact hk
    | updateReservations id o v =>
      simp only [exec] at h
      split at h
      · split_ifs at h
        obtain rfl := (Option.some.inj h).symm
        by_cases hid : k = id
        · subst hid
          rw [Table.find_update_self]
          exact fun hnone => hk (Option.map_eq_none_iff.mp hnone)
        · rw [Table.find_update_of_ne _ _ hid]
          exact hk
      · cases h
    | deleteReservations id =>
      obtain rfl := Option.some.inj h
      have hne : k ≠ id := fun hid => hw (by rw [hid])
      rw [Table.find_delete_of_ne _ hne]
      exact hk
    | _ => exact Relation.noConfusion hcible
  · rw [(exec_frame h).reservations hcible]
    exact hk

theorem find_reservations_commit {ws : List Statement} {s s' : Tables} {k : ℕ}
    (h : commit ws s = some s') (hws : Statement.deleteReservations k ∉ ws)
    (hk : s.reservations.find k ≠ none) : s'.reservations.find k ≠ none := by
  refine commit_induct (P := fun t => t.reservations.find k ≠ none) (fun w hw s₁ s₂ h₁ he => ?_)
    hk h
  exact find_reservations_exec he (fun heq => hws (heq ▸ hw)) h₁

/-- A reservation among those deleted with their owner. -/
theorem mem_of_delete_mem {s : Tables} {p : ReservationsRow → Bool} {w₀ : Statement}
    {resa : ReservationsRow} (hresa : resa ∈ s.reservations.rows)
    (h : Statement.deleteReservations resa.id ∈
      (s.reservations.select p).map (fun r => .deleteReservations r.id) ++ [w₀])
    (hw₀ : w₀ ≠ .deleteReservations resa.id) : p resa = true := by
  rcases List.mem_append.mp h with h | h
  · obtain ⟨r, hr, heq⟩ := List.mem_map.mp h
    obtain ⟨hr, hp⟩ := Table.mem_select.mp hr
    have hid := Statement.deleteReservations.inj heq
    obtain rfl : r = resa := s.reservations.eq_of_key_eq hr hresa hid
    exact hp
  · exact absurd (List.mem_singleton.mp h).symm hw₀

/-! ### One request -/

/-- The loan a request inserts is there after it, and was not before. -/
theorem pretOuvert_of_insert {s s' : Tables} {row : EmpruntRow} {resa : ReservationsRow}
    (hs' : s'.emprunt = s.emprunt.insert row) (hl : row.livre = resa.livre)
    (hu : row.utilisateur = resa.utilisateur) (hopen : row.dateRetour = none) :
    PretOuvert s s' resa := by
  refine ⟨Keyed.withKey s.emprunt.next row, ?_, ?_, hl, hu, hopen⟩
  · rw [hs']
    exact Table.mem_insert.mpr (Or.inr rfl)
  · rw [Table.find_eq_none_iff]
    exact fun e he => Nat.ne_of_lt (s.emprunt.lt_next e he)

/-- A request that is not such a NEW takes no reservation away without a reason. -/
theorem justifie_of_sansPretRendu (services : Services) (s : Tables) (r : Requete)
    (hok : SansPretRendu s r) : Justifie services s r := by
  intro resa hresa
  have hfind : s.reservations.find resa.id ≠ none := by
    rw [(s.reservations.find_eq_some_iff resa.id resa).mpr ⟨hresa, rfl⟩]
    exact Option.some_ne_none _
  refine apres_induct (P := fun s' => s'.reservations.find resa.id = none →
    r.Supprime resa ∨ PretOuvert s s' resa) services s r (fun hnone => absurd hnone hfind) ?_
  intro ws s' hecrit hc hgone
  -- the reservation is gone, so its deletion is in the unit of work
  have hmem : Statement.deleteReservations resa.id ∈ ws := by
    by_contra hnot
    exact find_reservations_commit hc hnot hfind hgone
  cases hecrit with
  | @empruntNew form now u l hdate hu hl hexiste hlibre hquota =>
    right
    obtain ⟨row, hrow, rfl⟩ := commit_persistStatements hc
    have hdel := (List.mem_cons.mp hmem).resolve_left nofun
    obtain ⟨r', hr', heq⟩ := Option.map_eq_some_iff.mp (Option.mem_toList.mp hdel)
    obtain ⟨hr'mem, hr'l, hr'u⟩ := reservationDe_eq_some hr'
    obtain rfl : r' = resa :=
      s.reservations.eq_of_key_eq hr'mem hresa (Statement.deleteReservations.inj heq)
    have hopen : form.dateRetour = none := by
      by_contra hclosed
      exact hok hclosed u l ⟨⟨hlibre, hquota⟩, hdate, hu, hl, hexiste.1, hexiste.2⟩ r' hr'mem
        ⟨hr'l, hr'u⟩
    refine pretOuvert_of_insert rfl ?_ ?_ (hrow.dateRetour.symm.trans hopen)
    · exact (Option.some.inj (hl.symm.trans hrow.livre)).symm.trans hr'l.symm
    · exact (Option.some.inj (hu.symm.trans hrow.utilisateur)).symm.trans hr'u.symm
  | @transformerEnEmprunt entityId now resa' hresa' hlibre hquota =>
    right
    have hc : commit (EmpruntCrudController.persistStatements
        (ReservationsCrudController.empruntDe resa' now) (some resa')) s = some s' := hc
    obtain ⟨row, hrow, rfl⟩ := commit_persistStatements hc
    have hdel := (List.mem_cons.mp hmem).resolve_left nofun
    have hid := Statement.deleteReservations.inj (List.mem_singleton.mp hdel)
    obtain rfl : resa = resa' :=
      s.reservations.eq_of_key_eq hresa (Table.mem_of_find hresa') hid
    refine pretOuvert_of_insert rfl ?_ ?_ hrow.dateRetour.symm
    · exact (Option.some.inj hrow.livre).symm
    · exact (Option.some.inj hrow.utilisateur).symm
  | reservationsDelete | apiDelete =>
    left
    exact (Statement.deleteReservations.inj (List.mem_singleton.mp hmem)).symm
  | utilisateurDelete | livreDelete =>
    left
    have hp := mem_of_delete_mem hresa hmem (fun heq => by cases heq)
    exact (beq_iff_eq.mp hp).symm
  | _ => exact absurd (List.mem_singleton.mp hmem) nofun

/-- An accepted NEW of a returned loan on a book its borrower has reserved takes the reservation
away without a reason. -/
theorem sansPretRendu_of_justifie (services : Services) (s : Tables) (r : Requete)
    (h : Justifie services s r) : SansPretRendu s r := by
  cases r with
  | empruntNew form now =>
    intro hclosed u l hnew resa hresa ⟨hl, hu⟩
    have hafter : (Requete.empruntNew form now).apres services s = avecPret s form now u l :=
      hnew.after_new now
    -- `findOneBy` finds this reservation or another one of the two
    obtain ⟨r, hr⟩ : ∃ r, EmpruntCrudController.reservationDe l u s = some r := by
      rw [← Option.isSome_iff_exists, EmpruntCrudController.reservationDe, List.find?_isSome]
      exact ⟨resa, hresa, by simp [hl, hu]⟩
    have hgone : (avecPret s form now u l).reservations.find r.id = none := by
      rw [avecPret, hr]
      exact Table.find_delete_self _ _
    unfold Justifie at h
    rw [hafter] at h
    rcases h r (reservationDe_eq_some hr).1 hgone with hsupprime | ⟨e, he, hnew', -, -, hopen⟩
    · exact hsupprime
    · rcases Table.mem_insert.mp he with he | rfl
      · exact (Table.find_eq_none_iff _ _).mp hnew' e he rfl
      · exact hclosed hopen
  | _ => trivial

/-- **Vanishing reservations.**  From any tables: along a run of requests no reservation goes
without a reason exactly when no request is an accepted NEW of a returned loan on a book its
borrower has reserved. -/
theorem vanishing_justified_iff (services : Services) (s : Tables) (rs : List Requete) :
    Along (servir services) (Justifie services) s rs ↔
      Along (servir services) SansPretRendu s rs :=
  along_iff (I := fun _ => True) _
    (fun s r _ => ⟨sansPretRendu_of_justifie services s r, justifie_of_sansPretRendu services s r⟩)
    (fun _ _ _ _ => trivial) rs s trivial

/-- A member reserves a book, and an old loan of the same book by the same member is entered with
its return date: the reservation is gone, and the member has no open loan. -/
theorem reservation_lost_to_returned_loan :
    let s := executer Exemple.services (Exemple.tables .empty .empty) [.apiCreate 5 1 0]
    let r := Requete.empruntNew ⟨none, some 0, some 5, some 5, some 1⟩ 0
    s.resasLivre 1 = 1 ∧ (r.handler Exemple.services).answer s = .enregistre ∧
      (r.apres Exemple.services s).resasLivre 1 = 0 ∧
      (r.apres Exemple.services s).enCoursUtilisateur 5 = 0 ∧
      ¬ Justifie Exemple.services s r := by
  intro s r
  refine ⟨by decide, by decide, by decide, by decide, fun h => ?_⟩
  rcases h ⟨1, 0, 5, 1⟩ (by decide) (by decide) with hsupprime | ⟨e, he, -, -, -, hopen⟩
  · exact hsupprime
  · have hrows : (r.apres Exemple.services s).emprunt.rows = [⟨1, 0, some 5, 5, 1⟩] := by decide
    rw [hrows] at he
    obtain rfl := List.mem_singleton.mp he
    cases hopen

end Biblio
