import Biblio.Equiv.ApiSerial
import Biblio.Equiv.Isolation
import Biblio.Equiv.Profile
import Biblio.Equiv.Search
import Biblio.Lecture
import Biblio.Store.Keys

/-!
# What a member learns of the others

Two databases look the same to the member `u` (`MemeVue u s s'`) if they have the same books, the
same data of `u` except for the password, the same loans and reservations of `u`, and of the others
no more in common than this: which books are on loan, which ones others have reserved, which emails
others have, and which ids of reservations are in use, with the next one.  Whatever requests a
member who is no administrator sends to the API, he gets the same answers from both
(`answers_from_view`): nothing else of the others' accounts, loans and reservations, and no
password, can be inferred from any sequence of answers.

All the items of the list are needed: the flags of a book are shown; a new email is refused if
another account has it; a reservation of another member answers 403 and one that does not exist
404; and a new reservation shows the id that was next.
-/

namespace Biblio

open Prog ReservationsController

/-- Two rows of an account that differ in the password only. -/
structure MemeCompte (row row' : UtilisateurRow) : Prop where
  public_eq : { row' with password := "" } = { row with password := "" }
  fits : row.password.length ≤ 255
  fits' : row'.password.length ≤ 255

/-- Two databases that look the same to the account `u`, which is no administrator's. -/
structure MemeVue (u : ℕ) (s s' : Tables) : Prop where
  membre : ∀ row, s.utilisateur.find u = some row → isGranted row.roles "ROLE_ADMIN" = false
  livre : s'.livre = s.livre
  compte : Option.Rel MemeCompte (s.utilisateur.find u) (s'.utilisateur.find u)
  emprunts : getEmprunts u s' = getEmprunts u s
  reservations : getReservations u s' = getReservations u s
  prete : ∀ l, s'.enCoursLivre l = 0 ↔ s.enCoursLivre l = 0
  reserve : ∀ l, (∃ r ∈ s'.reservations.rows, r.livre = l ∧ r.utilisateur ≠ u) ↔
    ∃ r ∈ s.reservations.rows, r.livre = l ∧ r.utilisateur ≠ u
  emailKey : s'.emailKey = s.emailKey
  emails : ∀ e, s'.emailLibre u e = s.emailLibre u e
  ids : ∀ id, (s'.reservations.find id).isSome = (s.reservations.find id).isSome
  next : s'.reservations.next = s.reservations.next

namespace MemeVue

variable {u : ℕ} {s s' : Tables}

theorem hasLivre (h : MemeVue u s s') (l : ℕ) : s'.hasLivre l = s.hasLivre l := by
  unfold Tables.hasLivre
  rw [h.livre]

/-- The account is there in both, or in neither. -/
theorem compte_cases (h : MemeVue u s s') :
    (s.utilisateur.find u = none ∧ s'.utilisateur.find u = none) ∨
      ∃ row row', s.utilisateur.find u = some row ∧ s'.utilisateur.find u = some row' ∧
        MemeCompte row row' := by
  have hcompte := h.compte
  generalize s.utilisateur.find u = o at hcompte ⊢
  generalize s'.utilisateur.find u = o' at hcompte ⊢
  cases hcompte with
  | none => exact Or.inl ⟨rfl, rfl⟩
  | some hrow => exact Or.inr ⟨_, _, rfl, rfl, hrow⟩

theorem mem_getReservations {r : ReservationsRow} :
    r ∈ getReservations u s ↔ r ∈ s.reservations.rows ∧ r.utilisateur = u := by
  unfold getReservations
  rw [Table.mem_select, beq_iff_eq]

theorem resasUtilisateur (h : MemeVue u s s') : s'.resasUtilisateur u = s.resasUtilisateur u := by
  have hlen := congrArg List.length h.reservations
  unfold getReservations at hlen
  rw [length_resas, length_resas] at hlen
  exact hlen

/-- A book is reserved in both, or in neither. -/
theorem resasLivre (h : MemeVue u s s') (l : ℕ) : s'.resasLivre l = 0 ↔ s.resasLivre l = 0 := by
  have hiff : ∀ t : Tables, t.resasLivre l = 0 ↔
      (¬ ∃ r ∈ t.reservations.rows, r.livre = l ∧ r.utilisateur ≠ u) ∧
        ∀ r ∈ getReservations u t, r.livre ≠ l := by
    intro t
    unfold Tables.resasLivre
    rw [Table.count_eq_zero_iff]
    constructor
    · intro hall
      refine ⟨?_, fun r hr hl => ?_⟩
      · rintro ⟨r, hr, hl, -⟩
        have := hall r hr
        simp [resaSurLivre, hl] at this
      · have := hall r (mem_getReservations.mp hr).1
        simp [resaSurLivre, hl] at this
    · rintro ⟨hautres, hsiennes⟩ r hr
      by_cases hu : r.utilisateur = u
      · have := hsiennes r (mem_getReservations.mpr ⟨hr, hu⟩)
        simpa [resaSurLivre] using this
      · by_contra hl
        refine hautres ⟨r, hr, ?_, hu⟩
        simpa [resaSurLivre] using hl
  rw [hiff s', hiff s, h.reserve, h.reservations]

/-! ### What is read -/

theorem getIsReserve_eq_false_iff (t : Tables) (l : ℕ) :
    getIsReserve (t.reservations.select fun r => r.livre == l) = false ↔ t.resasLivre l = 0 := by
  unfold getIsReserve Tables.resasLivre resaSurLivre
  rw [← Table.length_select, Bool.not_eq_false', List.isEmpty_iff, List.length_eq_zero_iff]

theorem livreRef (h : MemeVue u s s') : s'.livreRef = s.livreRef := by
  unfold Tables.livreRef
  rw [h.livre]

theorem serialiserEmprunt (h : MemeVue u s s') : s'.serialiserEmprunt = s.serialiserEmprunt := by
  unfold Tables.serialiserEmprunt
  rw [h.livreRef]

theorem serialiserReservation (h : MemeVue u s s') :
    s'.serialiserReservation = s.serialiserReservation := by
  unfold Tables.serialiserReservation
  rw [h.livreRef]

theorem serialiserLivre (h : MemeVue u s s') : s'.serialiserLivre = s.serialiserLivre := by
  funext l
  have hreserve : getIsReserve (s'.reservations.select fun r => r.livre == l.livre.id)
      = getIsReserve (s.reservations.select fun r => r.livre == l.livre.id) := by
    rw [Bool.eq_iff_iff, ← not_iff_not, Bool.not_eq_true, Bool.not_eq_true,
      getIsReserve_eq_false_iff, getIsReserve_eq_false_iff]
    exact h.resasLivre _
  have hprete : getIsEmprunte (s'.emprunt.select fun e => e.livre == l.livre.id)
      = getIsEmprunte (s.emprunt.select fun e => e.livre == l.livre.id) := by
    rw [Bool.eq_iff_iff, ← not_iff_not, Bool.not_eq_true, Bool.not_eq_true,
      getIsEmprunte_eq_false_iff, getIsEmprunte_eq_false_iff]
    exact h.prete _
  unfold Tables.serialiserLivre
  rw [hreserve, hprete]

/-- What the account shows is the same. -/
theorem serialiserUtilisateur (h : MemeVue u s s') {row row' : UtilisateurRow}
    (hrow : MemeCompte row row') (emprunts : List EmpruntRow)
    (reservations : List ReservationsRow) :
    s'.serialiserUtilisateur row'.toEntity emprunts reservations
      = s.serialiserUtilisateur row.toEntity emprunts reservations := by
  have hsans : ∀ (t : Tables) (r : UtilisateurRow),
      t.serialiserUtilisateur r.toEntity emprunts reservations
        = t.serialiserUtilisateur { r with password := "" }.toEntity emprunts reservations :=
    fun _ _ => rfl
  rw [hsans s', hsans s, hrow.public_eq]
  unfold Tables.serialiserUtilisateur
  rw [h.serialiserEmprunt, h.serialiserReservation]

/-! ### The three requests that write -/

/-- A new reservation of the member. -/
theorem insert (h : MemeVue u s s') (d : Datetime) (l : ℕ) :
    MemeVue u { s with reservations := s.reservations.insert ⟨0, d, u, l⟩ }
      { s' with reservations := s'.reservations.insert ⟨0, d, u, l⟩ } where
  membre := h.membre
  livre := h.livre
  compte := h.compte
  emprunts := h.emprunts
  reservations := by
    have hbefore := h.reservations
    unfold getReservations at hbefore ⊢
    rw [Table.select_insert _ (beq_self_eq_true u), Table.select_insert _ (beq_self_eq_true u),
      hbefore, h.next]
  prete := h.prete
  reserve l' := by
    have hiff : ∀ t : Table ReservationsRow,
        (∃ r ∈ (t.insert ⟨0, d, u, l⟩).rows, r.livre = l' ∧ r.utilisateur ≠ u) ↔
          ∃ r ∈ t.rows, r.livre = l' ∧ r.utilisateur ≠ u := by
      intro t
      constructor
      · rintro ⟨r, hr, hl, hu⟩
        rcases Table.mem_insert.mp hr with hr | rfl
        · exact ⟨r, hr, hl, hu⟩
        · exact absurd rfl hu
      · rintro ⟨r, hr, hl, hu⟩
        exact ⟨r, Table.mem_insert.mpr (Or.inl hr), hl, hu⟩
    rw [hiff, hiff]
    exact h.reserve l'
  emailKey := h.emailKey
  emails := h.emails
  ids id := by
    rw [Table.isSome_find_insert_eq, Table.isSome_find_insert_eq, h.ids, h.next]
  next := congrArg (· + 1) h.next

/-- A reservation of the member that he cancels. -/
theorem delete (h : MemeVue u s s') {k : ℕ} {r : ReservationsRow}
    (hr : s.reservations.find k = some r) (hr' : s'.reservations.find k = some r)
    (hu : r.utilisateur = u) :
    MemeVue u { s with reservations := s.reservations.delete k }
      { s' with reservations := s'.reservations.delete k } where
  membre := h.membre
  livre := h.livre
  compte := h.compte
  emprunts := h.emprunts
  reservations := by
    have hbefore := h.reservations
    unfold getReservations at hbefore ⊢
    rw [Table.select_delete, Table.select_delete, hbefore]
  prete := h.prete
  reserve l' := by
    have hiff : ∀ t : Table ReservationsRow, t.find k = some r →
        ((∃ x ∈ (t.delete k).rows, x.livre = l' ∧ x.utilisateur ≠ u) ↔
          ∃ x ∈ t.rows, x.livre = l' ∧ x.utilisateur ≠ u) := by
      intro t ht
      constructor
      · rintro ⟨x, hx, hl, hx'⟩
        exact ⟨x, (Table.mem_delete.mp hx).1, hl, hx'⟩
      · rintro ⟨x, hx, hl, hx'⟩
        refine ⟨x, Table.mem_delete.mpr ⟨hx, fun hk => hx' ?_⟩, hl, hx'⟩
        -- the row of this key is the member's own
        have hfind := (t.find_eq_some_iff k x).mpr ⟨hx, hk⟩
        obtain rfl : r = x := Option.some.inj (ht.symm.trans hfind)
        exact hu
    rw [hiff _ hr, hiff _ hr']
    exact h.reserve l'
  emailKey := h.emailKey
  emails := h.emails
  ids id := by
    rw [Table.isSome_find_delete_eq, Table.isSome_find_delete_eq, h.ids]
  next := h.next

end MemeVue

/-! ### Answers -/

/-- What two runs of a request leave and answer looks the same. -/
structure MemeSortie (u : ℕ) (out out' : Tables × Reponse) : Prop where
  vue : MemeVue u out.1 out'.1
  lue : out'.2.lue u out'.1 = out.2.lue u out.1

section Ecritures

variable {u : ℕ} {s s' : Tables}

/-- The account itself as an answer. -/
theorem MemeVue.lue_jsonUtilisateur (h : MemeVue u s s') {row row' : UtilisateurRow}
    (hrow : MemeCompte row row') :
    (Reponse.jsonUtilisateur row'.toEntity).lue u s'
      = (Reponse.jsonUtilisateur row.toEntity).lue u s := by
  simp only [Reponse.lue]
  rw [h.serialiserUtilisateur hrow, h.emprunts, h.reservations]

/-- A refusal of a request looks the same. -/
theorem MemeVue.refus (h : MemeVue u s s') (status : ℕ) (message : String) :
    MemeSortie u (s, .json status message) (s', .json status message) :=
  ⟨h, rfl⟩

theorem alone_regleQuota_refus {t : Tables} {l : ℕ} {now : Instant}
    (h : ¬ t.resasUtilisateur u < 3) :
    (regleQuota u l now).alone t = (t, .json 409 "Limite de 3 réservations atteinte.") := by
  rw [regleQuota, read_bind, alone_query, if_pos]
  · rfl
  · rw [length_resas]
    omega

theorem alone_regleReserve_refus {t : Tables} {l : ℕ} {now : Instant} (h : t.resasLivre l ≠ 0) :
    (regleReserve u l now).alone t = (t, .json 409 "Ce livre est déjà réservé.") := by
  have hfound := mt (find_resa_isSome t l).mp h
  rw [Bool.not_eq_false] at hfound
  rw [regleReserve, read_bind, alone_query, if_pos hfound]
  rfl

theorem alone_regleEmprunt_refus {t : Tables} {l : ℕ} {now : Instant}
    (h : t.enCoursLivre l ≠ 0) :
    (regleEmprunt u l now).alone t = (t, .json 409 "Ce livre est actuellement emprunté.") := by
  have hfound := mt (find_enCours_isSome t l).mp h
  rw [Bool.not_eq_false] at hfound
  rw [regleEmprunt, read_bind, alone_query, if_pos hfound]
  rfl

theorem alone_enregistrer {t : Tables} {l : ℕ} {now : Instant} (hu : t.hasUtilisateur u = true)
    (hl : t.hasLivre l = true) :
    (enregistrer u l now).alone t
      = ({ t with reservations := t.reservations.insert ⟨0, toDatetime now, u, l⟩ },
          .json 201 "Livre réservé avec succès !") := by
  have hexec : commit [Statement.insertReservations ⟨none, some (toDatetime now), some u, some l⟩] t
      = some { t with reservations := t.reservations.insert ⟨0, toDatetime now, u, l⟩ } := by
    show (if t.hasUtilisateur u = true ∧ t.hasLivre l = true then some _ else none).bind some = _
    rw [if_pos ⟨hu, hl⟩]
    rfl
  rw [enregistrer, save_bind, alone_flush_some hexec]
  rfl

theorem memeSortie_create (h : MemeVue u s s') (l : ℕ) (now : Instant) :
    MemeSortie u ((create u l now).alone s) ((create u l now).alone s') := by
  rcases h.compte_cases with ⟨hnone, hnone'⟩ | ⟨row, row', hrow, hrow', -⟩
  · simp only [create, read_bind, alone_query, hnone, hnone']
    exact ⟨h, rfl⟩
  rw [alone_create s u l now (by rw [hrow]; exact Option.some_ne_none _),
    alone_create s' u l now (by rw [hrow']; exact Option.some_ne_none _)]
  by_cases hl : s.livre.find l = none
  · have hl' : s'.livre.find l = none := by rw [h.livre, hl]
    simp only [resoudreLivre, read_bind, alone_query, hl, hl']
    exact ⟨h, rfl⟩
  have hl' : s'.livre.find l ≠ none := by
    rw [h.livre]
    exact hl
  rw [alone_resoudreLivre s u l now hl, alone_resoudreLivre s' u l now hl']
  by_cases hquota : s.resasUtilisateur u < 3
  swap
  · rw [alone_regleQuota_refus hquota, alone_regleQuota_refus (h.resasUtilisateur ▸ hquota)]
    exact h.refus _ _
  rw [alone_regleQuota s u l now hquota, alone_regleQuota s' u l now (h.resasUtilisateur ▸ hquota)]
  by_cases hresa : s.resasLivre l = 0
  swap
  · rw [alone_regleReserve_refus hresa, alone_regleReserve_refus (mt (h.resasLivre l).mp hresa)]
    exact h.refus _ _
  have hresa' : s'.resasLivre l = 0 := (h.resasLivre l).mpr hresa
  rw [alone_regleReserve s u l now hresa, alone_regleReserve s' u l now hresa']
  by_cases hlibre : s.enCoursLivre l = 0
  swap
  · rw [alone_regleEmprunt_refus hlibre, alone_regleEmprunt_refus (mt (h.prete l).mp hlibre)]
    exact h.refus _ _
  rw [alone_regleEmprunt s u l now hlibre, alone_regleEmprunt s' u l now ((h.prete l).mpr hlibre)]
  have hlivre : s.hasLivre l = true := Option.isSome_iff_ne_none.mpr hl
  have hlivre' : s'.hasLivre l = true := by
    rw [h.hasLivre]
    exact hlivre
  rw [alone_enregistrer (by rw [Tables.hasUtilisateur, hrow]; rfl) hlivre,
    alone_enregistrer (by rw [Tables.hasUtilisateur, hrow']; rfl) hlivre']
  exact ⟨h.insert (toDatetime now) l, rfl⟩

/-- A reservation of the member is the same row in both. -/
theorem MemeVue.find_siennes (h : MemeVue u s s') {k : ℕ} {r : ReservationsRow}
    (hr : s.reservations.find k = some r) (hu : r.utilisateur = u) :
    s'.reservations.find k = some r := by
  obtain ⟨hmem, hk⟩ := (s.reservations.find_eq_some_iff k r).mp hr
  have hmem' : r ∈ getReservations u s' := by
    rw [h.reservations]
    exact mem_getReservations.mpr ⟨hmem, hu⟩
  exact (s'.reservations.find_eq_some_iff k r).mpr ⟨(mem_getReservations.mp hmem').1, hk⟩

theorem MemeVue.symm_find_siennes (h : MemeVue u s s') {k : ℕ} {r : ReservationsRow}
    (hr : s'.reservations.find k = some r) (hu : r.utilisateur = u) :
    s.reservations.find k = some r := by
  obtain ⟨hmem, hk⟩ := (s'.reservations.find_eq_some_iff k r).mp hr
  have hmem' : r ∈ getReservations u s := by
    rw [← h.reservations]
    exact mem_getReservations.mpr ⟨hmem, hu⟩
  exact (s.reservations.find_eq_some_iff k r).mpr ⟨(mem_getReservations.mp hmem').1, hk⟩

theorem memeSortie_delete (h : MemeVue u s s') (k : ℕ) :
    MemeSortie u ((delete u k).alone s) ((delete u k).alone s') := by
  rcases h.compte_cases with ⟨hnone, hnone'⟩ | ⟨row, row', hrow, hrow', -⟩
  · simp only [delete, read_bind, alone_query, hnone, hnone']
    exact ⟨h, rfl⟩
  rw [alone_delete s u k (by rw [hrow]; exact Option.some_ne_none _),
    alone_delete s' u k (by rw [hrow']; exact Option.some_ne_none _)]
  have hids := h.ids k
  simp only [resoudreReservation, read_bind, alone_query]
  cases hr : s.reservations.find k with
  | none =>
    rw [hr, Option.isSome_none, Option.isSome_eq_false_iff, Option.isNone_iff_eq_none] at hids
    rw [hids]
    exact ⟨h, rfl⟩
  | some r =>
    rw [hr, Option.isSome_some, Option.isSome_iff_exists] at hids
    obtain ⟨r', hr'⟩ := hids
    rw [hr']
    by_cases hu : r.utilisateur = u
    · have hsame := h.find_siennes hr hu
      obtain rfl := Option.some.inj (hr'.symm.trans hsame)
      dsimp only
      rw [if_neg (not_not.mpr hu)]
      exact ⟨h.delete hr hr' hu, rfl⟩
    · have hu' : r'.utilisateur ≠ u := by
        intro hu'
        obtain rfl := Option.some.inj (hr.symm.trans (h.symm_find_siennes hr' hu'))
        exact hu hu'
      dsimp only
      rw [if_pos hu, if_pos hu']
      exact h.refus _ _

/-! ### `updateMe` -/

section Compte

variable {row row' : UtilisateurRow}

theorem MemeCompte.email_eq (h : MemeCompte row row') : row'.email = row.email := by
  have heq := congrArg UtilisateurRow.email h.public_eq
  exact heq

theorem MemeCompte.champs_eq (h : MemeCompte row row') :
    row'.adressePostale = row.adressePostale ∧ row'.numTel = row.numTel := by
  have hadresse := congrArg UtilisateurRow.adressePostale h.public_eq
  have htel := congrArg UtilisateurRow.numTel h.public_eq
  exact ⟨hadresse, htel⟩

/-- The rows that `updateMe` makes of them. -/
theorem MemeCompte.profil (h : MemeCompte row row') (email : String)
    (adressePostale numTel : Option String) :
    MemeCompte (profil row email adressePostale numTel)
      (profil row' email adressePostale numTel) where
  public_eq := by
    have heq := congrArg (fun r => Biblio.profil r email adressePostale numTel) h.public_eq
    exact heq
  fits := h.fits
  fits' := h.fits'

/-- What the columns keep of them. -/
theorem MemeCompte.profilGarde (h : MemeCompte row row') (email : String)
    (adressePostale numTel : Option String) :
    MemeCompte (profilGarde row email adressePostale numTel)
      (profilGarde row' email adressePostale numTel) := by
  rw [Biblio.profilGarde, Biblio.profilGarde, h.email_eq, h.champs_eq.1, h.champs_eq.2]
  exact h.profil _ _ _

/-- The columns take both rows, or none. -/
theorem MemeCompte.fits_eq (h : MemeCompte row row') : row'.toEntity.fits = row.toEntity.fits := by
  have hsans : ∀ r : UtilisateurRow, r.password.length ≤ 255 →
      r.toEntity.fits = { r with password := "" }.toEntity.fits := by
    intro r hr
    have hpassword : Biblio.fits 255 (some r.password) = true :=
      fits_of_length_le hr
    have hempty : Biblio.fits 255 (some "") = true := by decide
    simp only [Utilisateur.fits, UtilisateurRow.toEntity, hpassword, hempty]
  rw [hsans row' h.fits', hsans row h.fits, h.public_eq]

end Compte

/-- The update of an account leaves the emails of the others as they are. -/
theorem emailLibre_avecProfil (t : Tables) (r : UtilisateurRow) (email : String)
    (adressePostale numTel : Option String) (e : String) :
    (avecProfil t r email adressePostale numTel).emailLibre r.id e = t.emailLibre r.id e := by
  unfold Tables.emailLibre
  exact congrArg (· == 0) (t.utilisateur.others_update r.id _ _)

/-- One of the emails belongs to another account, or to the account itself. -/
theorem existe_iff {t : Tables} {row : UtilisateurRow} (hrow : t.utilisateur.find u = some row)
    (criteria : List String) :
    (t.utilisateur.rows.find? fun r => criteria.any (t.memeEmail r.email)).isSome = true ↔
      (∃ c ∈ criteria, t.emailLibre u c = false) ∨
        ∃ c ∈ criteria, t.memeEmail row.email c = true := by
  have hlibre : ∀ c, t.emailLibre u c = false ↔
      ∃ r ∈ t.utilisateur.rows, r.id ≠ u ∧ t.memeEmail r.email c = true := by
    intro c
    rw [← Bool.not_eq_true, emailLibre_iff]
    simp
  rw [List.find?_isSome]
  simp only [hlibre, List.any_eq_true]
  obtain ⟨hmem, hid⟩ := (t.utilisateur.find_eq_some_iff u row).mp hrow
  constructor
  · rintro ⟨r, hr, c, hc, hmeme⟩
    by_cases hru : r.id = u
    · obtain rfl : r = row := t.utilisateur.eq_of_key_eq hr hmem (hru.trans hid.symm)
      exact Or.inr ⟨c, hc, hmeme⟩
    · exact Or.inl ⟨c, hc, r, hr, hru, hmeme⟩
  · rintro (⟨c, hc, r, hr, -, hmeme⟩ | ⟨c, hc, hmeme⟩)
    · exact ⟨r, hr, c, hc, hmeme⟩
    · exact ⟨row, hmem, c, hc, hmeme⟩

section Profil

variable {row row' : UtilisateurRow} (hrow : s.utilisateur.find u = some row)
  (hrow' : s'.utilisateur.find u = some row') (hcompte : MemeCompte row row')

include hrow hrow' hcompte

theorem MemeVue.enregistrable_iff (h : MemeVue u s s') (email : String)
    (adressePostale numTel : Option String) :
    Enregistrable s' row' email adressePostale numTel ↔
      Enregistrable s row email adressePostale numTel := by
  unfold Enregistrable
  have hid : row.id = u := Table.key_of_find hrow
  have hid' : row'.id = u := Table.key_of_find hrow'
  rw [(hcompte.profil email adressePostale numTel).fits_eq, hcompte.email_eq, hid, hid', h.emails]

/-- The new values of the account. -/
theorem MemeVue.avecProfil (h : MemeVue u s s') (email : String)
    (adressePostale numTel : Option String) :
    MemeVue u (avecProfil s row email adressePostale numTel)
      (avecProfil s' row' email adressePostale numTel) := by
  obtain rfl : row.id = u := Table.key_of_find hrow
  have hid : row'.id = row.id := Table.key_of_find hrow'
  have hnew := find_avecProfil hrow email adressePostale numTel
  have hnew' := find_avecProfil (by rw [hid]; exact hrow') email adressePostale numTel
  rw [hid] at hnew'
  refine ⟨?_, h.livre, ?_, h.emprunts, h.reservations, h.prete, h.reserve, h.emailKey, ?_, h.ids,
    h.next⟩
  · intro r hr
    obtain rfl := Option.some.inj (hnew.symm.trans hr)
    exact h.membre row hrow
  · rw [hnew, hnew']
    exact .some (hcompte.profilGarde email adressePostale numTel)
  · intro e
    have he' := emailLibre_avecProfil s' row' email adressePostale numTel e
    rw [hid] at he'
    rw [he', emailLibre_avecProfil, h.emails]

/-- Another account has one of the emails that are asked for, or it is the account's own. -/
theorem MemeVue.existingUser_eq (h : MemeVue u s s') (criteria : List String) :
    (s'.utilisateur.rows.find? fun r => criteria.any (s'.memeEmail r.email)).isSome
      = (s.utilisateur.rows.find? fun r => criteria.any (s.memeEmail r.email)).isSome := by
  have hmeme : ∀ e e', s'.memeEmail e e' = s.memeEmail e e' := by
    intro e e'
    unfold Tables.memeEmail
    rw [h.emailKey]
  rw [Bool.eq_iff_iff, existe_iff hrow', existe_iff hrow]
  simp only [h.emails, hmeme, hcompte.email_eq]

theorem memeSortie_updateMeSuite (h : MemeVue u s s') (data : Json) (email : String) :
    MemeSortie u ((UserController.updateMeSuite row data email).alone s)
      ((UserController.updateMeSuite row' data email).alone s') := by
  obtain ⟨hadresse, htel⟩ := hcompte.champs_eq
  unfold UserController.updateMeSuite
  rw [hadresse, htel]
  split
  · next adressePostale numTel ha ht =>
    have hid : row.id = u := Table.key_of_find hrow
    have hid' : row'.id = u := Table.key_of_find hrow'
    have hexec := exec_profil (by rw [hid]; exact hrow) email adressePostale numTel
    have hexec' := exec_profil (by rw [hid']; exact hrow') email adressePostale numTel
    have hiff := h.enregistrable_iff hrow hrow' hcompte email adressePostale numTel
    rw [← commit_exec] at hexec hexec'
    simp only [save_bind]
    by_cases hok : Enregistrable s row email adressePostale numTel
    · rw [if_pos hok] at hexec
      rw [if_pos (hiff.mpr hok)] at hexec'
      have hvue := h.avecProfil hrow hrow' hcompte email adressePostale numTel
      rw [alone_flush_some hexec, alone_flush_some hexec']
      exact ⟨hvue, hvue.lue_jsonUtilisateur (hcompte.profil email adressePostale numTel)⟩
    · rw [if_neg hok] at hexec
      rw [if_neg (mt hiff.mp hok)] at hexec'
      rw [alone_flush_none hexec, alone_flush_none hexec']
      exact ⟨h, rfl⟩
  · exact ⟨h, rfl⟩

end Profil

theorem memeSortie_updateMe (h : MemeVue u s s') (data : Json) :
    MemeSortie u ((UserController.updateMe u data).alone s)
      ((UserController.updateMe u data).alone s') := by
  simp only [UserController.updateMe, read_bind, alone_query]
  rcases h.compte_cases with ⟨hnone, hnone'⟩ | ⟨row, row', hrow, hrow', hcompte⟩
  · rw [hnone, hnone']
    exact ⟨h, rfl⟩
  rw [hrow, hrow']
  dsimp only
  split
  · exact ⟨h, rfl⟩
  rw [hcompte.email_eq]
  split_ifs with hset
  · simp only [alone_query]
    rw [h.existingUser_eq hrow hrow' hcompte]
    split_ifs
    · exact ⟨h, rfl⟩
    split
    · exact ⟨h, rfl⟩
    · exact memeSortie_updateMeSuite hrow hrow' hcompte h data _
  · exact memeSortie_updateMeSuite hrow hrow' hcompte h data _

end Ecritures

/-! ### The requests that read -/

section Lectures

variable {u : ℕ} {s s' : Tables}

/-- The same rows look the same. -/
theorem MemeVue.lue_eq (h : MemeVue u s s') (r : ReponseGet) : r.lue s' = r.lue s := by
  cases r with
  | utilisateur row emprunts reservations =>
    simp only [ReponseGet.lue, Tables.serialiserUtilisateur, h.serialiserEmprunt,
      h.serialiserReservation]
  | emprunts rows => simp only [ReponseGet.lue, h.serialiserEmprunt]
  | reservations rows => simp only [ReponseGet.lue, h.serialiserReservation]
  | livres r => simp only [ReponseGet.lue, h.serialiserLivre]
  | livre l => simp only [ReponseGet.lue, h.serialiserLivre]
  | _ => rfl

/-- The account with its collections. -/
theorem MemeVue.lue_me (h : MemeVue u s s') {row row' : UtilisateurRow}
    (hrow : MemeCompte row row') :
    (ReponseGet.utilisateur row' (getEmprunts u s') (getReservations u s')).lue s'
      = (ReponseGet.utilisateur row (getEmprunts u s) (getReservations u s)).lue s := by
  simp only [ReponseGet.lue]
  rw [h.serialiserUtilisateur hrow, h.emprunts, h.reservations]

theorem MemeCompte.roles_eq {row row' : UtilisateurRow} (h : MemeCompte row row') :
    row'.roles = row.roles := by
  have heq := congrArg UtilisateurRow.roles h.public_eq
  exact heq

/-- Whatever is asked for. -/
theorem MemeVue.lue_get (h : MemeVue u s s') (api : Api) (g : Get) :
    ((g.handler api u).answer s').lue s' = ((g.handler api u).answer s).lue s := by
  unfold answer
  cases g with
  | me =>
    simp only [Get.handler, UserController.lireMe, read_bind, alone_query]
    rcases h.compte_cases with ⟨hnone, hnone'⟩ | ⟨row, row', hrow, hrow', hcompte⟩
    · rw [hnone, hnone']
      rfl
    · rw [hrow, hrow']
      exact h.lue_me hcompte
  | mesEmprunts =>
    simp only [Get.handler, UserActionsController.mesEmprunts, read_bind, alone_query]
    rcases h.compte_cases with ⟨hnone, hnone'⟩ | ⟨row, row', hrow, hrow', -⟩
    · rw [hnone, hnone']
      rfl
    · rw [hrow, hrow']
      simp only [alone_query, h.emprunts]
      exact h.lue_eq _
  | mesReservations =>
    simp only [Get.handler, UserActionsController.mesReservations, read_bind, alone_query]
    rcases h.compte_cases with ⟨hnone, hnone'⟩ | ⟨row, row', hrow, hrow', -⟩
    · rw [hnone, hnone']
      rfl
    · rw [hrow, hrow']
      simp only [alone_query, h.reservations]
      exact h.lue_eq _
  | reservations =>
    simp only [Get.handler, ReservationsController.index, read_bind, alone_query]
    rcases h.compte_cases with ⟨hnone, hnone'⟩ | ⟨row, row', hrow, hrow', -⟩
    · rw [hnone, hnone']
      rfl
    · rw [hrow, hrow']
      simp only [alone_query, h.reservations]
      exact h.lue_eq _
  | stats =>
    simp only [Get.handler, StatsController.getStats, read_bind, alone_query]
    rcases h.compte_cases with ⟨hnone, hnone'⟩ | ⟨row, row', hrow, hrow', hcompte⟩
    · rw [hnone, hnone']
      rfl
    · -- the totals are for administrators
      have hmembre := h.membre row hrow
      rw [hrow, hrow']
      simp only [hcompte.roles_eq, hmembre]
      rfl
  | _ => exact h.lue_eq _

end Lectures

/-! ### Runs -/

section Runs

variable {u : ℕ} {s s' : Tables}

theorem MemeVue.repondre_eq (h : MemeVue u s s') (api : Api) (a : AppelMembre) :
    a.repondre api u s' = a.repondre api u s := by
  cases a with
  | create livre now => exact (memeSortie_create h livre now).lue
  | delete reservation => exact (memeSortie_delete h reservation).lue
  | updateMe data => exact (memeSortie_updateMe h data).lue
  | get g => exact h.lue_get api g

theorem MemeVue.apres (h : MemeVue u s s') (api : Api) (a : AppelMembre) :
    MemeVue u (a.apres api u s) (a.apres api u s') := by
  cases a with
  | create livre now => exact (memeSortie_create h livre now).vue
  | delete reservation => exact (memeSortie_delete h reservation).vue
  | updateMe data => exact (memeSortie_updateMe h data).vue
  | get g =>
    rw [AppelMembre.apres, AppelMembre.apres, after_get, after_get]
    exact h

/-- **Confidentiality.**  Two databases that look the same to a member who is no administrator
answer every sequence of requests of his in the same way. -/
theorem answers_from_view (api : Api) (u : ℕ) (s s' : Tables) (h : MemeVue u s s')
    (as : List AppelMembre) : repondre api u s' as = repondre api u s as :=
  outputs_eq _ (fun _ _ a hvue => hvue.repondre_eq api a) (fun _ _ a hvue => hvue.apres api a)
    as s s' h

end Runs

/-! ### Two libraries that differ in what others do -/

namespace Exemple

/-- The small library where `lecteur` has the first book on loan since `debut` and a reservation of
the second one. -/
def chezUnAutre (lecteur : ℕ) (debut : Datetime) : Tables :=
  tables (Table.empty.insert ⟨0, debut, none, lecteur, 1⟩)
    (Table.empty.insert ⟨0, debut, lecteur, 2⟩)

def api : Api := ⟨catalogue, .direct, like, fun _ => "1970-01-01 00:00:00"⟩

end Exemple

theorem memeVue_exemple : MemeVue 5 (Exemple.chezUnAutre 6 0) (Exemple.chezUnAutre 4 86400) where
  membre row hrow := by
    obtain rfl : Exemple.compte 5 "adherent0@articles.fr" ["ROLE_USER"] "password" = row :=
      Option.some.inj hrow
    decide
  livre := rfl
  compte := .some ⟨rfl, by decide, by decide⟩
  emprunts := by decide
  reservations := by decide
  prete _ := Iff.rfl
  reserve l := by
    simp [Exemple.chezUnAutre, Exemple.tables, Table.mem_insert, Table.empty, Keyed.withKey]
  emailKey := rfl
  emails _ := rfl
  ids id := by
    rw [Bool.eq_iff_iff, Table.isSome_find_iff, Table.isSome_find_iff]
    simp [Exemple.chezUnAutre, Exemple.tables, Table.mem_insert, Table.empty, Keyed.withKey,
      Keyed.key]
  next := rfl

/-- The member asks for the two books, for his own account and for a reservation of another: he
cannot tell who has the books, nor since when. -/
theorem answers_from_view_of_others :
    let as := [AppelMembre.get (.livre 1), .create 1 0, .create 2 0, .get .me, .delete 1]
    Exemple.chezUnAutre 6 0 ≠ Exemple.chezUnAutre 4 86400 ∧
      repondre Exemple.api 5 (Exemple.chezUnAutre 4 86400) as
        = repondre Exemple.api 5 (Exemple.chezUnAutre 6 0) as := by
  refine ⟨fun heq => ?_, answers_from_view _ 5 _ _ memeVue_exemple _⟩
  have hrows := congrArg (fun t : Tables => t.emprunt.rows) heq
  exact absurd hrows (by decide)

end Biblio
