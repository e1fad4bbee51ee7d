import Biblio.Equiv.LoanSave
import Biblio.Equiv.ReservationRules

/-!
# A book is not both reserved and on loan

The reservation side refuses a book that is on loan; the loan side does not ask whether the book
is reserved.  A loan form that its page accepts opens a loan (`Ouvre`); the pages NEW and EDIT then
leave the reservations of the book in place, except that NEW removes one of the borrower.
`PretSansConflit` says of a request, from the tables before it, that it opens no loan in that way
on a book reserved by somebody else (NEW) or by anybody (EDIT).

From empty tables, a run keeps reservations and open loans apart in every state exactly when all
its requests meet that condition (`exclusion_iff_sansConflit`): a request that meets it preserves
`Exclusif` (`respecte_apres`), and one that does not breaks it at once (`not_exclusif_apres`).
-/

namespace Biblio

open Prog

/-- No book has both a reservation and an open loan. -/
def Exclusif (s : Tables) : Prop := ∀ l, s.resasLivre l = 0 ∨ s.enCoursLivre l = 0

/-- An open loan of the book `l` by the member `u`. -/
def ouvert (l u : ℕ) (e : EmpruntRow) : Bool := surLivre l e && e.utilisateur == u

/-- No loan is opened on a book that somebody else has reserved. -/
def SansPretReserve (s s' : Tables) : Prop :=
  ∀ l u, s.emprunt.count (ouvert l u) < s'.emprunt.count (ouvert l u) →
    ∀ resa ∈ s.reservations.rows, resa.livre = l → resa.utilisateur = u

/-- A submitted loan that the checks of its page let through as an open loan of `l` by `u`; `id`
is the loan under edition, `0` for a new one. -/
structure Ouvre (s : Tables) (id : ℕ) (form : Emprunt) (u l : ℕ) : Prop where
  dateEmprunt : form.dateEmprunt ≠ none
  utilisateur : form.utilisateur = some u
  livre : form.livre = some l
  dateRetour : form.dateRetour = none
  hasUtilisateur : s.hasUtilisateur u = true
  hasLivre : s.hasLivre l = true
  quota : s.emprunt.others id (parUtilisateur u) < 5
  libre : s.emprunt.others id (surLivre l) = 0

/-- A request opens no loan on a reserved book: on NEW the borrower's own reservation does not
count, since `persistEntity` removes it. -/
def PretSansConflit (s : Tables) : Requete → Prop
  | .empruntNew form _ => ∀ u l, Ouvre s 0 form u l →
      ∀ resa ∈ s.reservations.rows, resa.livre = l → resa.utilisateur = u
  | .empruntEdit entityId form => ∀ u l, (s.emprunt.find entityId).isSome →
      Ouvre s entityId form u l → s.resasLivre l = 0
  | _ => True

/-! ### Changes that keep the exclusion -/

theorem Exclusif.of_le {s s' : Tables} (hs : Exclusif s)
    (he : ∀ p, s'.emprunt.count p ≤ s.emprunt.count p)
    (hr : ∀ p, s'.reservations.count p ≤ s.reservations.count p) : Exclusif s' := by
  intro l
  have he := he (surLivre l)
  have hr := hr (resaSurLivre l)
  rcases hs l with h | h
  · unfold Tables.resasLivre at h
    exact Or.inl (by unfold Tables.resasLivre; omega)
  · unfold Tables.enCoursLivre at h
    exact Or.inr (by unfold Tables.enCoursLivre; omega)

/-- One loan is added to a part of those there were, and no reservation; if it is open, its book
is left without reservation. -/
theorem Exclusif.of_emprunt {s s' : Tables} {base : (EmpruntRow → Bool) → ℕ} (hs : Exclusif s)
    (row : EmpruntRow) (hle : ∀ p, base p ≤ s.emprunt.count p)
    (hcount : ∀ p, s'.emprunt.count p = base p + (p row).toNat)
    (hr : ∀ p, s'.reservations.count p ≤ s.reservations.count p)
    (hok : row.dateRetour = none → s'.resasLivre row.livre = 0) : Exclusif s' := by
  intro l
  cases hrow : surLivre l row with
  | true =>
    simp only [surLivre, EmpruntRow.enCours, Bool.and_eq_true, beq_iff_eq,
      Option.isNone_iff_eq_none] at hrow
    obtain ⟨rfl, hopen⟩ := hrow
    exact Or.inl (hok hopen)
  | false =>
    have hle := hle (surLivre l)
    have hcount := hcount (surLivre l)
    rw [hrow, Bool.toNat_false, Nat.add_zero] at hcount
    rcases hs l with h | h
    · have hr := hr (resaSurLivre l)
      unfold Tables.resasLivre at h
      exact Or.inl (by unfold Tables.resasLivre; omega)
    · unfold Tables.enCoursLivre at h
      exact Or.inr (by unfold Tables.enCoursLivre; omega)

/-- One reservation, of a book that is not on loan, is added to a part of those there were. -/
theorem Exclusif.of_resa {s s' : Tables} {base : (ReservationsRow → Bool) → ℕ} (hs : Exclusif s)
    (row : ReservationsRow) (hle : ∀ p, base p ≤ s.reservations.count p)
    (hcount : ∀ p, s'.reservations.count p = base p + (p row).toNat)
    (he : s'.emprunt = s.emprunt) (hok : s.enCoursLivre row.livre = 0) : Exclusif s' := by
  intro l
  have hopen : s'.enCoursLivre l = s.enCoursLivre l := by
    unfold Tables.enCoursLivre
    rw [he]
  by_cases hl : row.livre = l
  · subst hl
    exact Or.inr (hopen.trans hok)
  · have hle := hle (resaSurLivre l)
    have hcount := hcount (resaSurLivre l)
    have hrow : resaSurLivre l row = false := by simpa [resaSurLivre] using hl
    rw [hrow, Bool.toNat_false, Nat.add_zero] at hcount
    rcases hs l with h | h
    · unfold Tables.resasLivre at h
      exact Or.inl (by unfold Tables.resasLivre; omega)
    · exact Or.inr (hopen.trans h)

theorem SansPretReserve.of_le {s s' : Tables}
    (he : ∀ p, s'.emprunt.count p ≤ s.emprunt.count p) : SansPretReserve s s' := by
  intro l u hgrow
  have := he (ouvert l u)
  omega

theorem SansPretReserve.of_emprunt {s s' : Tables} {base : (EmpruntRow → Bool) → ℕ}
    (row : EmpruntRow) (hle : ∀ p, base p ≤ s.emprunt.count p)
    (hcount : ∀ p, s'.emprunt.count p = base p + (p row).toNat)
    (hok : row.dateRetour = none → ∀ resa ∈ s.reservations.rows, resa.livre = row.livre →
      resa.utilisateur = row.utilisateur) : SansPretReserve s s' := by
  intro l u hgrow
  have hle := hle (ouvert l u)
  have hcount := hcount (ouvert l u)
  cases hrow : ouvert l u row with
  | false =>
    rw [hrow, Bool.toNat_false] at hcount
    omega
  | true =>
    simp only [ouvert, surLivre, EmpruntRow.enCours, Bool.and_eq_true, beq_iff_eq,
      Option.isNone_iff_eq_none] at hrow
    obtain ⟨⟨rfl, hopen⟩, rfl⟩ := hrow
    exact hok hopen

/-! ### Removing the reservation of a book -/

/-- The only reservation of a book. -/
theorem ResasBornees.unique {s : Tables} (hs : ResasBornees s) {r r' : ReservationsRow}
    (hr : r ∈ s.reservations.rows) (hr' : r' ∈ s.reservations.rows) (hl : r.livre = r'.livre) :
    r = r' := by
  by_contra hne
  have hone := hs.livre r.livre
  have hfind := (s.reservations.find_eq_some_iff (Keyed.key r) r).mpr ⟨hr, rfl⟩
  have hhere : s.reservations.here (Keyed.key r) (resaSurLivre r.livre) = 1 := by
    simp [Table.here, hfind, resaSurLivre]
  unfold Tables.resasLivre at hone
  rw [Table.count_eq_others _ (Keyed.key r), hhere] at hone
  -- so no other reservation is of this book, but `r'` is
  have hothers : s.reservations.others (Keyed.key r) (resaSurLivre r.livre) = 0 := by omega
  have hr'' := (Table.count_eq_zero_iff _ _).mp hothers r' hr'
  have hkey : Keyed.key r' ≠ Keyed.key r := fun h =>
    hne (s.reservations.eq_of_key_eq hr' hr h).symm
  simp [resaSurLivre, hl, hkey] at hr''

/-- Removing the reservation of a book leaves none. -/
theorem ResasBornees.delete {s : Tables} (hs : ResasBornees s) {r : ReservationsRow}
    (hr : r ∈ s.reservations.rows) :
    (s.reservations.delete (Keyed.key r)).count (resaSurLivre r.livre) = 0 := by
  rw [Table.count_eq_zero_iff]
  intro r' hr'
  obtain ⟨hmem, hkey⟩ := Table.mem_delete.mp hr'
  have hne : r'.livre ≠ r.livre := fun h => hkey (congrArg Keyed.key (hs.unique hmem hr h))
  simpa [resaSurLivre] using hne

/-- Where the book is reserved by nobody but the borrower, the conversion leaves it without
reservation. -/
theorem count_sansResa_eq_zero {s : Tables} (hs : ResasBornees s) {l u : ℕ}
    (hown : ∀ resa ∈ s.reservations.rows, resa.livre = l → resa.utilisateur = u) :
    (sansResa s (EmpruntCrudController.reservationDe l u s)).count (resaSurLivre l) = 0 := by
  cases hfind : EmpruntCrudController.reservationDe l u s with
  | none =>
    show s.reservations.count (resaSurLivre l) = 0
    rw [Table.count_eq_zero_iff]
    intro r hr
    -- a reservation of the book would be the borrower's, and `findOneBy` would find it
    have hnone := List.find?_eq_none.mp hfind r hr
    have hne : r.livre ≠ l := fun hl => hnone (by simp [hl, hown r hr hl])
    simpa [resaSurLivre] using hne
  | some r =>
    obtain ⟨hr, rfl, -⟩ := reservationDe_eq_some hfind
    exact hs.delete hr

/-! ### One request -/

/-- What a request does to the exclusion, from the tables before to those after. -/
def Respecte (s s' : Tables) : Prop := Exclusif s' ∧ SansPretReserve s s'

theorem Respecte.of_le {s s' : Tables} (hs : Exclusif s)
    (he : ∀ p, s'.emprunt.count p ≤ s.emprunt.count p)
    (hr : ∀ p, s'.reservations.count p ≤ s.reservations.count p) : Respecte s s' :=
  ⟨hs.of_le he hr, .of_le he⟩

/-- A loan is inserted, and a reservation perhaps removed. -/
theorem Respecte.insertEmprunt {s : Tables} (hs : Exclusif s) (row : EmpruntRow)
    (resa : Option ReservationsRow)
    (hzero : row.dateRetour = none → (sansResa s resa).count (resaSurLivre row.livre) = 0)
    (hown : row.dateRetour = none → ∀ r ∈ s.reservations.rows, r.livre = row.livre →
      r.utilisateur = row.utilisateur) :
    Respecte s { s with emprunt := s.emprunt.insert row, reservations := sansResa s resa } := by
  constructor
  · exact hs.of_emprunt (Keyed.withKey s.emprunt.next row) (fun _ => Nat.le_refl _)
      (fun _ => Table.count_insert _ _ _) (count_sansResa_le s resa) hzero
  · exact .of_emprunt (Keyed.withKey s.emprunt.next row) (fun _ => Nat.le_refl _)
      (fun _ => Table.count_insert _ _ _) hown

/-- A loan is changed, which removes no reservation; so there must be none if it is open. -/
theorem Respecte.updateEmprunt {s s' : Tables} {id : ℕ} {row : EmpruntRow} (hs : Exclusif s)
    (hres : s'.reservations = s.reservations)
    (hcount : ∀ p, s'.emprunt.count p = s.emprunt.others id p + (p row).toNat)
    (hzero : row.dateRetour = none → s.resasLivre row.livre = 0) : Respecte s s' := by
  constructor
  · refine hs.of_emprunt row (fun p => s.emprunt.others_le_count _ p) hcount
      (fun p => Nat.le_of_eq (by rw [hres])) fun hopen => ?_
    unfold Tables.resasLivre
    rw [hres]
    exact hzero hopen
  · refine .of_emprunt row (fun p => s.emprunt.others_le_count _ p) hcount
      fun hopen resa hresa hlivre => ?_
    have hnone := (Table.count_eq_zero_iff _ _).mp (hzero hopen) resa hresa
    simp [resaSurLivre, hlivre] at hnone

/-- A reservation of a book that is not on loan is inserted. -/
theorem Respecte.insertReservations {s : Tables} (hs : Exclusif s) (row : ReservationsRow)
    (hlibre : s.enCoursLivre row.livre = 0) :
    Respecte s { s with reservations := s.reservations.insert row } :=
  ⟨hs.of_resa (Keyed.withKey s.reservations.next row) (fun _ => Nat.le_refl _)
    (fun _ => Table.count_insert _ _ _) rfl hlibre, .of_le fun _ => Nat.le_refl _⟩

/-- A loan that is open in the row of a form was open in the form. -/
theorem Emprunt.Complete.ouvre {s : Tables} {form e : Emprunt} {row : EmpruntRow} {id : ℕ}
    (hrow : e.Complete row) (hdate : form.dateEmprunt ≠ none)
    (hu : e.utilisateur = form.utilisateur) (hl : e.livre = form.livre)
    (hd : e.dateRetour = form.dateRetour) (hopen : row.dateRetour = none)
    (hhasU : s.hasUtilisateur row.utilisateur = true) (hhasL : s.hasLivre row.livre = true)
    (hquota : s.emprunt.others id (parUtilisateur row.utilisateur) < 5)
    (hlibre : s.emprunt.others id (surLivre row.livre) = 0) :
    Ouvre s id form row.utilisateur row.livre where
  dateEmprunt := hdate
  utilisateur := hu.symm.trans hrow.utilisateur
  livre := hl.symm.trans hrow.livre
  dateRetour := (hd.symm.trans hrow.dateRetour).trans hopen
  hasUtilisateur := hhasU
  hasLivre := hhasL
  quota := hquota
  libre := hlibre

/-- **One request.**  A request that opens no loan on a reserved book keeps reservations and open
loans apart. -/
theorem respecte_apres (services : Services) {s : Tables} (hs : Exclusif s)
    (hb : ResasBornees s) (r : Requete) (hok : PretSansConflit s r) :
    Respecte s (r.apres services s) := by
  apply apres_induct services s r (.of_le hs (fun _ => Nat.le_refl _) (fun _ => Nat.le_refl _))
  intro ws s' hecrit hc
  cases hecrit with
  | @empruntNew form now u l hdate hu hl hexiste hlibre hquota =>
    obtain ⟨row, hrow, rfl⟩ := commit_persistStatements hc
    obtain rfl : u = row.utilisateur := Option.some.inj (hu.symm.trans hrow.utilisateur)
    obtain rfl : l = row.livre := Option.some.inj (hl.symm.trans hrow.livre)
    -- if the loan is open, the only reservation of the book is the borrower's, and it goes
    have hown : row.dateRetour = none → ∀ resa ∈ s.reservations.rows,
        resa.livre = row.livre → resa.utilisateur = row.utilisateur := fun hopen =>
      hok _ _ (hrow.ouvre hdate rfl rfl rfl hopen hexiste.1 hexiste.2
        (by rw [Table.others_zero]; exact hquota) (by rw [Table.others_zero]; exact hlibre))
    exact .insertEmprunt hs row _ (fun hopen => count_sansResa_eq_zero hb (hown hopen)) hown
  | @empruntEdit entityId form old hrow hdate hu hl hvalid =>
    have hres := (exec_frame (commit_singleton hc)).reservations Relation.noConfusion
    obtain ⟨row, hid, hcomplete, -, hcount⟩ := exec_updateEmprunt hrow (commit_singleton hc)
    refine .updateEmprunt hs hres hcount fun hopen => ?_
    obtain ⟨hquota, hlibre⟩ := hvalid _ _ hcomplete.utilisateur hcomplete.livre
      (hcomplete.dateRetour.trans hopen)
    exact hok _ _ (by rw [hrow]; rfl) (hcomplete.ouvre hdate rfl rfl rfl hopen
      (hu _ hcomplete.utilisateur) (hl _ hcomplete.livre) hquota hlibre)
  | empruntDelete =>
    obtain rfl := Option.some.inj (commit_singleton hc)
    exact .of_le hs (fun p => Table.count_delete_le _ _ p) fun _ => Nat.le_refl _
  | rendreLivre hrow hopen =>
    obtain rfl := Table.key_of_find hrow
    have hres := (exec_frame (commit_singleton hc)).reservations Relation.noConfusion
    obtain ⟨row, -, hcomplete, -, hcount⟩ := exec_updateEmprunt hrow (commit_singleton hc)
    -- the loan is closed, so it puts no book on loan
    exact .updateEmprunt hs hres hcount fun hopen =>
      absurd (hcomplete.dateRetour.trans hopen) (Option.some_ne_none _)
  | @transformerEnEmprunt entityId now resa hresa hlibre hquota =>
    have hc : commit (EmpruntCrudController.persistStatements
        (ReservationsCrudController.empruntDe resa now) (some resa)) s = some s' := hc
    obtain ⟨row, hrow, rfl⟩ := commit_persistStatements hc
    obtain hu : resa.utilisateur = row.utilisateur := Option.some.inj hrow.utilisateur
    obtain hl : resa.livre = row.livre := Option.some.inj hrow.livre
    have hmem := Table.mem_of_find hresa
    -- the reservation converted is the only one of its book
    refine .insertEmprunt hs row (some resa) (fun _ => ?_) fun _ resa' hresa' hlivre => ?_
    · rw [← hl]
      exact hb.delete hmem
    · rw [hb.unique hresa' hmem (hlivre.trans hl.symm)]
      exact hu
  | reservationsNew hvalid =>
    obtain ⟨row, hrow, rfl⟩ := exec_insertReservations (commit_singleton hc)
    obtain ⟨-, -, hlibre⟩ := hvalid _ _ hrow.utilisateur hrow.livre
    exact .insertReservations hs row hlibre
  | reservationsEdit hrow hvalid =>
    have hemp := (exec_frame (commit_singleton hc)).emprunt Relation.noConfusion
    obtain ⟨row, -, hcomplete, hcount⟩ := exec_updateReservations hrow (commit_singleton hc)
    obtain ⟨-, -, hlibre⟩ := hvalid _ _ hcomplete.utilisateur hcomplete.livre
    exact ⟨hs.of_resa row (fun p => s.reservations.others_le_count _ p) hcount hemp hlibre,
      .of_le fun p => Nat.le_of_eq (by rw [hemp])⟩
  | apiCreate hquota hresa hlibre =>
    obtain ⟨row, hrow, rfl⟩ := exec_insertReservations (commit_singleton hc)
    obtain rfl := Option.some.inj hrow.livre
    exact .insertReservations hs row hlibre
  | reservationsDelete | apiDelete =>
    obtain rfl := Option.some.inj (commit_singleton hc)
    exact .of_le hs (fun _ => Nat.le_refl _) fun p => Table.count_delete_le _ _ p
  | utilisateurDelete | livreDelete =>
    refine .of_le hs (fun p => Nat.le_of_eq ?_) (commit_reservations_count_le (fun w hw => ?_) hc)
    · rw [commit_emprunt_eq (fun w hw => ?_) hc]
      exact cible_ne_of_mem_deletes Relation.noConfusion Relation.noConfusion hw
    · exact sansAjoutResa_of_mem_deletes Relation.noConfusion hw
  | _ =>
    have hframe := exec_frame (commit_singleton hc)
    refine .of_le hs (fun p => Nat.le_of_eq ?_) fun p => Nat.le_of_eq ?_
    · rw [hframe.emprunt Relation.noConfusion]
    · rw [hframe.reservations Relation.noConfusion]

/-! ### Accepted loans -/

/-- An open loan that the page EDIT lets through. -/
theorem Ouvre.accepte {s : Tables} {id : ℕ} {form : Emprunt} {u l : ℕ} (h : Ouvre s id form u l) :
    EmpruntRulesValidator.Accepte s { form with id := some id } := by
  intro u' l' hu' hl' _
  obtain rfl : u = u' := Option.some.inj (h.utilisateur.symm.trans hu')
  obtain rfl : l = l' := Option.some.inj (h.livre.symm.trans hl')
  exact ⟨h.quota, h.libre⟩

/-- An open loan that the page NEW lets through. -/
theorem Ouvre.newAccepte {s : Tables} {form : Emprunt} {u l : ℕ} (h : Ouvre s 0 form u l) :
    NewAccepte s form u l := by
  have hlibre := h.libre
  have hquota := h.quota
  rw [Table.others_zero] at hlibre hquota
  exact ⟨⟨hlibre, hquota⟩, h.dateEmprunt, h.utilisateur, h.livre, h.hasUtilisateur, h.hasLivre⟩

/-- A loan opened on a book with a reservation that stays breaks the exclusion. -/
theorem not_exclusif_of_mem {s : Tables} {e : EmpruntRow} (he : e ∈ s.emprunt.rows)
    (hopen : e.dateRetour = none) (resa : ReservationsRow) (hresa : resa ∈ s.reservations.rows)
    (hl : resa.livre = e.livre) : ¬ Exclusif s := by
  intro hs
  rcases hs e.livre with h | h
  · have := (Table.count_eq_zero_iff _ _).mp h resa hresa
    simp [resaSurLivre, hl] at this
  · have := (Table.count_eq_zero_iff _ _).mp h e he
    simp [surLivre, EmpruntRow.enCours, hopen] at this

/-- **One request.**  A request that opens a loan on a reserved book leaves a book that is both
reserved and on loan. -/
theorem not_exclusif_apres (services : Services) {s : Tables} (r : Requete)
    (hconflit : ¬ PretSansConflit s r) : ¬ Exclusif (r.apres services s) := by
  cases r with
  | empruntNew form now =>
    simp only [PretSansConflit, not_forall] at hconflit
    obtain ⟨u, l, hopen, resa, hresa, hlivre, hother⟩ := hconflit
    have hafter := hopen.newAccepte.after_new now
    show ¬ Exclusif ((EmpruntCrudController.new form now).after s)
    rw [hafter]
    refine not_exclusif_of_mem (Table.mem_insert.mpr (Or.inr rfl)) hopen.dateRetour resa ?_ hlivre
    show resa ∈ (sansResa s (EmpruntCrudController.reservationDe l u s)).rows
    cases hfind : EmpruntCrudController.reservationDe l u s with
    | none => exact hresa
    | some own =>
      -- the reservation that goes is the borrower's
      obtain ⟨hown, -, hu⟩ := reservationDe_eq_some hfind
      refine Table.mem_delete.mpr ⟨hresa, fun hkey => hother ?_⟩
      rw [s.reservations.eq_of_key_eq hresa hown hkey]
      exact hu
  | empruntEdit entityId form =>
    simp only [PretSansConflit, not_forall] at hconflit
    obtain ⟨u, l, hsome, hopen, hresas⟩ := hconflit
    obtain ⟨row, hrow⟩ := Option.isSome_iff_exists.mp hsome
    have hdesigne : Designe s form u l :=
      ⟨hopen.utilisateur, hopen.livre, hopen.hasUtilisateur, hopen.hasLivre⟩
    obtain ⟨s', hexec, hafter⟩ := hdesigne.after_edit hrow hopen.dateEmprunt hopen.accepte
    obtain ⟨new, -, hcomplete, hfind, -⟩ := exec_updateEmprunt hrow hexec
    show ¬ Exclusif ((EmpruntCrudController.edit entityId form).after s)
    rw [hafter]
    have hres := (exec_frame hexec).reservations Relation.noConfusion
    obtain ⟨resa, hresa, hlivre⟩ : ∃ resa ∈ s.reservations.rows, resa.livre = l := by
      by_contra hnone
      refine hresas ((Table.count_eq_zero_iff _ _).mpr fun resa hresa => ?_)
      have hne : resa.livre ≠ l := fun h => hnone ⟨resa, hresa, h⟩
      simpa [resaSurLivre] using hne
    refine not_exclusif_of_mem (Table.mem_of_find hfind)
      (hcomplete.dateRetour.symm.trans hopen.dateRetour) resa (by rw [hres]; exact hresa) ?_
    rw [hlivre]
    exact Option.some.inj (hopen.livre.symm.trans hcomplete.livre)
  | _ => exact absurd trivial hconflit

/-! ### Runs -/

theorem Exclusif.of_rows_eq_nil {s : Tables} (h : s.emprunt.rows = []) : Exclusif s :=
  fun l => Or.inr (by simp [Tables.enCoursLivre, Table.count, h])

/-- **Reservations and loans.**  From empty tables `emprunt` and `reservations`, the requests of a
run all leave reservations and open loans apart, and open no loan on a book reserved by another
member, exactly when none of them opens a loan on a book whose reservation it leaves. -/
theorem exclusion_iff_sansConflit (services : Services) (s : Tables)
    (he : s.emprunt.rows = []) (hr : s.reservations.rows = []) (rs : List Requete) :
    Along (servir services) (fun s r => Respecte s (r.apres services s)) s rs ↔
      Along (servir services) PretSansConflit s rs := by
  refine along_iff _ (I := fun s => Exclusif s ∧ ResasBornees s) ?_ ?_ rs s
    ⟨.of_rows_eq_nil he, .of_rows_eq_nil hr⟩
  · rintro s r ⟨hs, hb⟩
    refine ⟨fun hrespecte => ?_, respecte_apres services hs hb r⟩
    by_contra hconflit
    exact not_exclusif_apres services r hconflit hrespecte.1
  · rintro s r ⟨-, hb⟩ hrespecte
    exact ⟨hrespecte.1, hb.of_regles (reglesResas_apres services s r)⟩

/-- A member who borrows the book he has reserved. -/
theorem exclusion_iff_sansConflit_own_reservation :
    Along (servir Exemple.services)
      (fun s r => Respecte s (r.apres Exemple.services s)) (Exemple.tables .empty .empty)
      [.apiCreate 5 1 0, .empruntNew (Exemple.pret 5 1) 0] := by
  refine (exclusion_iff_sansConflit _ _ rfl rfl _).mpr ⟨trivial, ?_, trivial⟩
  intro u l hopen resa hresa _
  obtain rfl : 5 = u := Option.some.inj hopen.utilisateur
  have hrows : ∀ resa ∈ (executer Exemple.services (Exemple.tables .empty .empty)
      [.apiCreate 5 1 0]).reservations.rows, resa.utilisateur = 5 := by decide
  exact hrows resa hresa

/-- A member reserves a book, and another one borrows it. -/
theorem not_exclusif_reserved_then_borrowed :
    let s := executer Exemple.services (Exemple.tables .empty .empty)
      [.apiCreate 5 1 0, .empruntNew (Exemple.pret 6 1) 0]
    ¬ Exclusif s ∧ s.reservations.find 1 = some ⟨1, 0, 5, 1⟩ ∧
      s.emprunt.find 1 = some ⟨1, 0, none, 6, 1⟩ := by
  refine ⟨fun h => ?_, by decide, by decide⟩
  rcases h 1 with h | h
  · exact absurd h (by decide)
  · exact absurd h (by decide)

end Biblio
