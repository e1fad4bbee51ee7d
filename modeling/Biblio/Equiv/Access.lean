import Biblio.Equiv.AccountColumns
import Biblio.Equiv.Deletion
import Biblio.Equiv.Registration
import Biblio.Equiv.Routing
import Biblio.Equiv.Units
import Biblio.Store.Guard

/-!
# Who may change what

In every interleaving of HTTP requests, whatever their paths, methods, bodies, tokens, sessions and
cookies, each change of the tables is made by an access of a request that came from somebody who may
make it (`changes_authorised`): a change of the books from an administrator's session; of the loans
from a librarian's; a reservation is made from a librarian's session, or with the token of its
member; one is undone from a librarian's session, or by a `DELETE` of the API on this reservation
with a token; an account changes from a librarian's session, or with its own token or password; and
it is deleted from an administrator's session.  Nobody else changes anything.

There are three parts.  `Portee` is what the unit of work of a request may change, in any state,
from `Unite`; `Admise` is who a request was let through for, from the routes and firewalls of
`Biblio.Http`: sessions and cookies act on the pages of EasyAdmin and tokens on the API, and never
the other way round; and `Http.Recue` follows a request from its reception to each of its accesses.
-/

namespace Biblio

open Prog

/-! ### The reach of a request -/

namespace Requete

/-- The requests of the pages of EasyAdmin. -/
def guichet : Requete → Bool
  | apiCreate _ _ _ | apiDelete _ _ | register _ _ | updateMe _ _ | upgradePassword _ _ => false
  | _ => true

/-- The roles that the handler of a request asks about. -/
def acteur : Requete → Option (List String)
  | utilisateurNew acteur _ _ _ | utilisateurEdit acteur _ _ _ _ | utilisateurDelete acteur _
  | livreNew acteur _ | livreEdit acteur _ _ | livreDelete acteur _ => some acteur
  | _ => none

/-- The account that a request of the API or a login is about. -/
def membre : Requete → Option ℕ
  | apiCreate user _ _ | apiDelete user _ | updateMe user _ | upgradePassword user _ => some user
  | _ => none

/-- A request that an administrator makes. -/
def ParAdmin (q : Requete) : Prop :=
  ∃ acteur, q.acteur = some acteur ∧ isGranted acteur "ROLE_ADMIN" = true

theorem ParAdmin.guichet {q : Requete} (h : q.ParAdmin) : q.guichet = true := by
  obtain ⟨acteur, hacteur, -⟩ := h
  cases q <;> first | rfl | cases hacteur

theorem membre_of_guichet {q : Requete} (h : q.guichet = true) : q.membre = none := by
  cases q <;> first | rfl | cases h

end Requete

/-- What a unit of work of the request `q` may change. -/
structure Portee (q : Requete) (s s' : Tables) : Prop where
  livre : s'.livre ≠ s.livre → q.ParAdmin
  emprunt : s'.emprunt ≠ s.emprunt → q.guichet = true
  reserve : ∀ x ∈ s'.reservations.rows, x ∉ s.reservations.rows →
    q.guichet = true ∨ ∃ l now, q = .apiCreate x.utilisateur l now
  annule : ∀ x ∈ s.reservations.rows, x ∉ s'.reservations.rows →
    q.guichet = true ∨ ∃ u, q = .apiDelete u x.id
  compte : ∀ x ∈ s'.utilisateur.rows, x ∉ s.utilisateur.rows →
    q.guichet = true ∨ q.membre = some x.id
  supprime : ∀ id, s.hasUtilisateur id = true → s'.hasUtilisateur id = false → q.ParAdmin

theorem Portee.refl (q : Requete) (s : Tables) : Portee q s s where
  livre h := absurd rfl h
  emprunt h := absurd rfl h
  reserve _ hx hn := absurd hx hn
  annule _ hx hn := absurd hx hn
  compte _ hx hn := absurd hx hn
  supprime _ h h' := by rw [h] at h'; cases h'

section Unite

variable {services : Services} {q : Requete} {ws : List Statement} {s s' : Tables}

theorem commit_livre_eq (hws : ∀ w ∈ ws, w.cible ≠ .livre) (h : commit ws s = some s') :
    s'.livre = s.livre :=
  commit_induct (P := fun t => t.livre = s.livre)
    (fun w hw _ _ h₁ he => ((exec_frame he).livre (hws w hw)).trans h₁) rfl h

/-- Only administrators write books. -/
theorem cible_livre_of_unite (h : Unite services q ws) {w : Statement} (hw : w ∈ ws)
    (hcible : w.cible = .livre) : q.ParAdmin := by
  cases h with
  | livreNew hadmin | livreEdit row hadmin | livreDelete resas hadmin => exact ⟨_, rfl, hadmin⟩
  | empruntNew resa =>
    rcases List.mem_cons.mp hw with rfl | hw
    · cases hcible
    · obtain ⟨id, rfl⟩ := eq_delete_of_mem_toList hw
      cases hcible
  | transformerEnEmprunt resa =>
    rcases List.mem_cons.mp hw with rfl | hw
    · cases hcible
    · rw [List.mem_singleton.mp hw] at hcible
      cases hcible
  | utilisateurDelete resas hadmin => exact ⟨_, rfl, hadmin⟩
  | _ =>
    rw [List.mem_singleton.mp hw] at hcible
    cases hcible

/-- Only administrators delete accounts. -/
theorem deleteUtilisateur_of_unite (h : Unite services q ws) {id : ℕ}
    (hw : .deleteUtilisateur id ∈ ws) : q.ParAdmin := by
  cases h with
  | livreNew hadmin | livreEdit row hadmin | livreDelete resas hadmin => exact ⟨_, rfl, hadmin⟩
  | empruntNew resa =>
    rcases List.mem_cons.mp hw with hw | hw
    · cases hw
    · obtain ⟨id', hid'⟩ := eq_delete_of_mem_toList hw
      cases hid'
  | transformerEnEmprunt resa =>
    rcases List.mem_cons.mp hw with hw | hw
    · cases hw
    · cases List.mem_singleton.mp hw
  | utilisateurDelete resas hadmin => exact ⟨_, rfl, hadmin⟩
  | rendreLivre row hid =>
    unfold EmpruntCrudController.retour at hw
    cases List.mem_singleton.mp hw
  | _ => cases List.mem_singleton.mp hw

/-- A row that an `UPDATE` of an account has changed is that account's. -/
theorem id_of_updateUtilisateur {id : ℕ} {o : UtilisateurRow} {v : Utilisateur}
    (h : exec (.updateUtilisateur id o v) s = some s') {x : UtilisateurRow}
    (hx : x ∈ s'.utilisateur.rows) (hn : x ∉ s.utilisateur.rows) : x.id = id := by
  simp only [exec] at h
  split at h
  · split_ifs at h
    obtain rfl := (Option.some.inj h).symm
    obtain ⟨r, hr, rfl⟩ := Table.mem_update.mp hx
    by_contra hne
    have hid : Keyed.key r ≠ id := fun hid => hne ((Table.key_updateRow _ _ r).trans hid)
    refine hn ?_
    unfold Table.updateRow
    rw [if_neg hid]
    exact hr
  · cases h

/-- A member's requests write no loans. -/
theorem emprunt_eq_of_unite (h : Unite services q ws) (hg : q.guichet ≠ true)
    (hc : commit ws s = some s') : s'.emprunt = s.emprunt := by
  refine commit_emprunt_eq (fun w hw => ?_) hc
  cases h with
  | apiCreate | apiDelete | register | updateMe | upgradePassword =>
    rw [List.mem_singleton.mp hw]
    exact Relation.noConfusion
  | _ => exact absurd rfl hg

/-- A member reserves in his own name. -/
theorem reserve_of_unite (h : Unite services q ws) (hg : q.guichet ≠ true)
    (hc : commit ws s = some s') {x : ReservationsRow} (hx : x ∈ s'.reservations.rows)
    (hn : x ∉ s.reservations.rows) : ∃ l now, q = .apiCreate x.utilisateur l now := by
  cases h with
  | @apiCreate user livre now =>
    obtain ⟨row, hrow, rfl⟩ := exec_insertReservations (commit_singleton hc)
    rcases Table.mem_insert.mp hx with hx | rfl
    · exact absurd hx hn
    · obtain rfl : user = row.utilisateur := Option.some.inj hrow.utilisateur
      exact ⟨livre, now, rfl⟩
  | apiDelete =>
    obtain rfl := Option.some.inj (commit_singleton hc)
    exact absurd (Table.mem_delete.mp hx).1 hn
  | register | updateMe | upgradePassword =>
    rw [(exec_frame (commit_singleton hc)).reservations Relation.noConfusion] at hx
    exact absurd hx hn
  | _ => exact absurd rfl hg

/-- A member cancels the reservation that his request names. -/
theorem annule_of_unite (h : Unite services q ws) (hg : q.guichet ≠ true)
    (hc : commit ws s = some s') {x : ReservationsRow} (hx : x ∈ s.reservations.rows)
    (hn : x ∉ s'.reservations.rows) : ∃ u, q = .apiDelete u x.id := by
  cases h with
  | apiCreate =>
    obtain ⟨row, hrow, rfl⟩ := exec_insertReservations (commit_singleton hc)
    exact absurd (Table.mem_insert.mpr (Or.inl hx)) hn
  | @apiDelete user reservation =>
    obtain rfl := Option.some.inj (commit_singleton hc)
    refine ⟨user, ?_⟩
    by_contra hne
    refine hn (Table.mem_delete.mpr ⟨hx, fun hid => hne ?_⟩)
    rw [← hid]
    rfl
  | register | updateMe | upgradePassword =>
    rw [(exec_frame (commit_singleton hc)).reservations Relation.noConfusion] at hn
    exact absurd hx hn
  | _ => exact absurd rfl hg

/-- A member changes his own account. -/
theorem compte_of_unite (h : Unite services q ws) (hg : q.guichet ≠ true)
    (hc : commit ws s = some s') {x : UtilisateurRow} (hx : x ∈ s'.utilisateur.rows)
    (hn : x ∉ s.utilisateur.rows) : q.membre = some x.id := by
  cases h with
  | apiCreate | apiDelete =>
    rw [(exec_frame (commit_singleton hc)).utilisateur Relation.noConfusion] at hx
    exact absurd hx hn
  | register email nom prenom hash =>
    -- the row has no date of membership
    have hnone := exec_nouveau s email nom prenom hash
    rw [commit_singleton hc] at hnone
    cases hnone
  | updateMe row email adressePostale numTel hid =>
    rw [id_of_updateUtilisateur (commit_singleton hc) hx hn, hid]
    rfl
  | upgradePassword row =>
    rw [id_of_updateUtilisateur (commit_singleton hc) hx hn]
    rfl
  | _ => exact absurd rfl hg

/-- **One unit of work.** -/
theorem portee_of_unite (h : Unite services q ws) (hc : commit ws s = some s') :
    Portee q s s' := by
  have hlivre : s'.livre ≠ s.livre → q.ParAdmin := by
    intro hne
    by_contra hadmin
    refine hne (commit_livre_eq (fun w hw hcible => ?_) hc)
    exact hadmin (cible_livre_of_unite h hw hcible)
  have hsupprime : ∀ id, s.hasUtilisateur id = true → s'.hasUtilisateur id = false →
      q.ParAdmin := by
    intro id hid hgone
    by_contra hadmin
    have hkept : s'.hasUtilisateur id = true := by
      refine commit_induct (P := fun t => t.hasUtilisateur id = true) (fun w hw s₁ s₂ h₁ he => ?_)
        hid hc
      refine hasUtilisateur_exec he h₁ ?_
      rintro rfl
      exact hadmin (deleteUtilisateur_of_unite h hw)
    rw [hkept] at hgone
    cases hgone
  by_cases hg : q.guichet = true
  · exact ⟨hlivre, fun _ => hg, fun _ _ _ => Or.inl hg, fun _ _ _ => Or.inl hg,
      fun _ _ _ => Or.inl hg, hsupprime⟩
  · exact ⟨hlivre, fun hne => absurd (emprunt_eq_of_unite h hg hc) hne,
      fun _ hx hn => Or.inr (reserve_of_unite h hg hc hx hn),
      fun _ hx hn => Or.inr (annule_of_unite h hg hc hx hn),
      fun _ hx hn => Or.inr (compte_of_unite h hg hc hx hn), hsupprime⟩

end Unite

/-! ### Who is let through -/

namespace Http

variable {http : Http} {s : Tables} {r : RequeteHttp} {q : Requete}

/-- The account of a session or a cookie, with a role. -/
def Agit (http : Http) (s : Tables) (r : RequeteHttp) (role : String) : Prop :=
  ∃ row, http.compteMain s r = some row ∧ isGranted row.roles role = true

/-- The account of a token. -/
def ParJeton (http : Http) (s : Tables) (r : RequeteHttp) (user : ℕ) : Prop :=
  ∃ row, http.compteApi s r = some (some row) ∧ row.id = user

/-- The account of a password. -/
def ParMotDePasse (http : Http) (s : Tables) (r : RequeteHttp) (user : ℕ) : Prop :=
  ∃ row, http.compteConnexion s r = some row ∧ row.id = user

/-- Whom a request was let through for. -/
inductive Admise (http : Http) (s : Tables) (r : RequeteHttp) (q : Requete) : Prop
  | guichet (hg : q.guichet = true) (row : UtilisateurRow) (hrow : http.compteMain s r = some row)
      (hbiblio : isGranted row.roles "ROLE_BIBLIO" = true)
      (hacteur : ∀ acteur, q.acteur = some acteur → acteur = row.roles)
  | jeton (hg : q.guichet = false) (user : ℕ) (hmembre : q.membre = some user)
      (hjeton : ParJeton http s r user)
      (hdelete : ∀ u id, q = .apiDelete u id → r.methode = .delete ∧
        ∃ t, segments r.path = ["api", "reservations", t] ∧ http.entityId t = some id)
  | motDePasse (user : ℕ) (hash : String) (hq : q = .upgradePassword user hash)
      (hmdp : ParMotDePasse http s r user)
  | inscription (hq : q = .register r.data r.sel)

theorem acteur_requete (acteur : List String) (page : PageAdmin) :
    (page.requete acteur r).guichet = true ∧
      ∀ a, (page.requete acteur r).acteur = some a → a = acteur := by
  cases page <;> refine ⟨rfl, fun a ha => ?_⟩ <;> first | exact (Option.some.inj ha).symm | cases ha

/-- Behind the firewall `api`, the account is that of the token. -/
theorem parJeton_of_compte {row : UtilisateurRow} (hfirewall : firewall r.path = .api)
    (hcompte : http.compte s r = some (some row)) : ParJeton http s r row.id := by
  unfold compte at hcompte
  rw [hfirewall] at hcompte
  exact ⟨row, hcompte, rfl⟩

/-- A controller that writes was called with a token, or registers somebody. -/
theorem admise_appeler {action : Action} {id : Option String} {compte : Option UtilisateurRow}
    (hroute : trouverRoute r.methode (segments r.path) = .ok (action, id))
    (hcompte : http.compte s r = some compte)
    (h : http.appeler r action id compte = .requete q) : Admise http s r q := by
  obtain ⟨route, hmem, hcorrespond, haccepte, haction⟩ := mem_routes_of_trouverRoute hroute
  unfold appeler at h
  split at h
  · exact .inscription (Decision.requete.inj h).symm
  · next row =>
    obtain rfl := Decision.requete.inj h
    rw [route_updateMe route hmem haction] at hcorrespond
    have hparts := parts_of_correspond_me hcorrespond
    exact .jeton rfl row.id rfl (parJeton_of_compte (firewall_api hparts (Or.inl rfl)) hcompte)
      fun _ _ hq => by cases hq
  · cases h
  · next row =>
    split at h
    · next livre hlivre =>
      obtain rfl := Decision.requete.inj h
      rw [route_reservationsCreate route hmem haction] at hcorrespond
      obtain ⟨t, hparts, -⟩ := parts_of_correspond_reservations hcorrespond
      exact .jeton rfl row.id rfl (parJeton_of_compte (firewall_api hparts (Or.inr rfl)) hcompte)
        fun _ _ hq => by cases hq
    · cases h
  · next row =>
    split at h
    · next reservation hreservation =>
      obtain rfl := Decision.requete.inj h
      obtain ⟨hchemin, hmethodes⟩ := route_reservationsDelete route hmem haction
      rw [hchemin] at hcorrespond
      obtain ⟨t, hparts, rfl⟩ := parts_of_correspond_reservations hcorrespond
      have hjeton := parJeton_of_compte (firewall_api hparts (Or.inr rfl)) hcompte
      refine .jeton rfl row.id rfl hjeton fun u id hq => ?_
      obtain ⟨-, rfl⟩ := Requete.apiDelete.inj hq
      refine ⟨?_, t, hparts, hreservation⟩
      unfold Route.accepte at haccepte
      rw [hmethodes] at haccepte
      revert haccepte
      cases r.methode <;> decide
    · cases h
  · cases h
  · cases h
  · cases h

theorem refuser_ne_requete (compte : Option UtilisateurRow) : refuser r compte ≠ .requete q := by
  intro h
  unfold refuser at h
  split_ifs at h

/-- **One request.**  What is let through is let through for somebody. -/
theorem admise_of_decider (h : http.decider s r = .requete q) : Admise http s r q := by
  unfold decider at h
  split at h
  · next hadmin =>
    split at h
    · next row hrow =>
      split at h
      · have hmain : http.compteMain s r = some row := by
          unfold compte at hrow
          rw [firewall_admin hadmin] at hrow
          exact Option.some.inj hrow
        unfold appelerAdmin at h
        split at h
        · cases h
        · next page hpage =>
          split_ifs at h with hbiblio
          · obtain rfl := Decision.requete.inj h
            obtain ⟨hguichet, hacteur⟩ := acteur_requete (r := r) row.roles page
            exact .guichet hguichet row hmain hbiblio hacteur
          · exact absurd h (refuser_ne_requete _)
      · exact absurd h (refuser_ne_requete _)
    · exact absurd h (refuser_ne_requete _)
  · split at h
    · cases h
    · next action id hroute =>
      split at h
      · split at h
        · next row hrow =>
          unfold connexion at h
          split at h
          · next hash hhash =>
            exact .motDePasse row.id hash (Decision.requete.inj h).symm ⟨row, hrow, rfl⟩
          · cases h
        · cases h
      · split at h
        · cases h
        · next compte hcompte =>
          split at h
          · exact admise_appeler hroute hcompte h
          · exact absurd h (refuser_ne_requete _)

/-- A page of EasyAdmin is asked for by a librarian. -/
theorem Admise.biblio (h : Admise http s r q) (hg : q.guichet = true) :
    http.Agit s r "ROLE_BIBLIO" := by
  cases h with
  | guichet _ row hrow hbiblio _ => exact ⟨row, hrow, hbiblio⟩
  | jeton hg' =>
    rw [hg] at hg'
    cases hg'
  | motDePasse user hash hq =>
    rw [hq] at hg
    cases hg
  | inscription hq =>
    rw [hq] at hg
    cases hg

/-- What an administrator must ask for is asked for by one. -/
theorem Admise.admin (h : Admise http s r q) (hadmin : q.ParAdmin) :
    http.Agit s r "ROLE_ADMIN" := by
  have hg := hadmin.guichet
  obtain ⟨acteur, hacteur, hgranted⟩ := hadmin
  cases h with
  | guichet _ row hrow _ hroles =>
    rw [hroles acteur hacteur] at hgranted
    exact ⟨row, hrow, hgranted⟩
  | jeton hg' =>
    rw [hg] at hg'
    cases hg'
  | motDePasse user hash hq =>
    rw [hq] at hg
    cases hg
  | inscription hq =>
    rw [hq] at hg
    cases hg

/-- What a member must ask for himself is asked for with his token or his password. -/
theorem Admise.membre (h : Admise http s r q) {user : ℕ} (hmembre : q.membre = some user) :
    http.ParJeton s r user ∨ http.ParMotDePasse s r user := by
  cases h with
  | guichet hg =>
    rw [Requete.membre_of_guichet hg] at hmembre
    cases hmembre
  | jeton _ u hu hjeton _ =>
    obtain rfl := Option.some.inj (hu.symm.trans hmembre)
    exact Or.inl hjeton
  | motDePasse u hash hq hmdp =>
    rw [hq] at hmembre
    obtain rfl := Option.some.inj hmembre
    exact Or.inr hmdp
  | inscription hq =>
    rw [hq] at hmembre
    cases hmembre

/-- A reservation that a request of the API makes is made with the token of its member. -/
theorem Admise.reservation {user livre : ℕ} {now : Instant}
    (h : Admise http s r (.apiCreate user livre now)) : http.ParJeton s r user := by
  cases h with
  | guichet hg => cases hg
  | jeton _ u hu hjeton _ =>
    obtain rfl := Option.some.inj hu
    exact hjeton
  | motDePasse _ _ hq => cases hq
  | inscription hq => cases hq

/-- A reservation that a request of the API undoes is the one its url names. -/
theorem Admise.annulation {user id : ℕ} (h : Admise http s r (.apiDelete user id)) :
    http.ParJeton s r user ∧ r.methode = .delete ∧
      ∃ i, segments r.path = ["api", "reservations", i] ∧ http.entityId i = some id := by
  cases h with
  | guichet hg => cases hg
  | jeton _ u hu hjeton hurl =>
    obtain rfl := Option.some.inj hu
    exact ⟨hjeton, hurl user id rfl⟩
  | motDePasse _ _ hq => cases hq
  | inscription hq => cases hq

end Http

/-! ### Interleavings -/

/-- Of a run of the server, the request `q` was let through when the event `recevoir r` came, and
the event `avancer i` is an access of it. -/
def Http.Recue (http : Http) (s : Tables) (es : List EvenementHttp) (i : ℕ) (q : Requete) : Prop :=
  ∃ es₁ r es₂, es = es₁ ++ .recevoir r :: es₂ ∧ (run http.step (.idle s) es₁).procs.length = i ∧
    http.decider (run http.step (.idle s) es₁).store r = .requete q

namespace Http

variable {http : Http} {s : Tables}

theorem Recue.append {es : List EvenementHttp} {i : ℕ} {q : Requete} (h : http.Recue s es i q)
    (e : EvenementHttp) : http.Recue s (es ++ [e]) i q := by
  obtain ⟨es₁, r, es₂, rfl, hi, hq⟩ := h
  exact ⟨es₁, r, es₂ ++ [e], by simp, hi, hq⟩

/-- What is under way was received, and ends by a unit of work of its own. -/
def EnCours (http : Http) (s : Tables) (es : List EvenementHttp) : Prop :=
  ∀ i qp, (run http.step (.idle s) es).procs[i]? = some qp →
    http.Recue s es i qp.1 ∧ FinitPar http.services qp.1 qp.2

/-- What is under way after an event was so before, or has just been received. -/
theorem procs_step (c : ServeurHttp) (e : EvenementHttp) {i : ℕ} {qp : Requete × Handler}
    (h : (http.step c e).procs[i]? = some qp) :
    (∃ p, c.procs[i]? = some (qp.1, p) ∧ (qp.2 = p ∨ qp.2 = (p.step c.store).2)) ∨
      ∃ r, e = .recevoir r ∧ c.procs.length = i ∧ http.decider c.store r = .requete qp.1 ∧
        qp.2 = qp.1.handler http.services := by
  cases e with
  | recevoir r =>
    simp only [Http.step] at h
    split at h
    · next q hq =>
      simp only [Config.step] at h
      rw [List.getElem?_append] at h
      split_ifs at h with hi
      · exact Or.inl ⟨qp.2, h, Or.inl rfl⟩
      · rw [List.getElem?_singleton] at h
        split_ifs at h with hlast
        obtain rfl := Option.some.inj h
        exact Or.inr ⟨r, rfl, by omega, hq, rfl⟩
    · exact Or.inl ⟨qp.2, h, Or.inl rfl⟩
  | avancer k =>
    simp only [Http.step, Config.step] at h
    split at h
    · next q p hp =>
      rw [List.getElem?_set] at h
      split_ifs at h with hk hlt
      · obtain rfl := Option.some.inj h
        exact Or.inl ⟨p, hk ▸ hp, Or.inr rfl⟩
      · exact Or.inl ⟨qp.2, h, Or.inl rfl⟩
    · exact Or.inl ⟨qp.2, h, Or.inl rfl⟩

/-- An event changes the tables as an access of a request that is under way. -/
theorem store_step (http : Http) (c : ServeurHttp) (e : EvenementHttp) :
    (http.step c e).store = c.store ∨
      ∃ i qp, e = .avancer i ∧ c.procs[i]? = some qp ∧
        (http.step c e).store = (qp.2.step c.store).1 := by
  cases e with
  | recevoir r =>
    left
    simp only [Http.step]
    split <;> rfl
  | avancer i =>
    simp only [Http.step, Config.step]
    split
    · next q p hp => exact Or.inr ⟨i, (q, p), rfl, hp, rfl⟩
    · exact Or.inl rfl

theorem enCours_run (http : Http) (s : Tables) (es : List EvenementHttp) : http.EnCours s es := by
  induction es using List.reverseRecOn with
  | nil =>
    intro i qp hqp
    cases hqp
  | append_singleton es e ih =>
    intro i qp hqp
    rw [run_append] at hqp
    rcases procs_step (run http.step (.idle s) es) e hqp with
      ⟨p, hp, hreste⟩ | ⟨r, rfl, hi, hq, hdebut⟩
    · obtain ⟨hrecue, hfinit⟩ := ih i (qp.1, p) hp
      refine ⟨hrecue.append e, ?_⟩
      rcases hreste with hreste | hreste <;> rw [hreste]
      · exact hfinit
      · exact Config.endsBy_step hfinit _
    · rw [hdebut]
      exact ⟨⟨es, r, [], rfl, hi, hq⟩, endsBy_requete http.services qp.1⟩

/-- An access to the database leaves the tables as they are, or commits a unit of work of its
request. -/
theorem store_of_finitPar {services : Services} {q : Requete} {p : Handler}
    (h : FinitPar services q p) (t : Tables) :
    (p.step t).1 = t ∨ ∃ ws, Unite services q ws ∧ commit ws t = some (p.step t).1 := by
  cases h with
  | done => exact Or.inl rfl
  | query => exact Or.inl rfl
  | @flush ws f hunite =>
    cases hc : commit ws t with
    | none =>
      rw [Prog.step_flush_none hc]
      exact Or.inl rfl
    | some t' =>
      rw [Prog.step_flush_some hc]
      exact Or.inr ⟨ws, hunite, hc⟩

/-- **One event.**  It changes what its request may change. -/
theorem portee_step (http : Http) (s : Tables) (es : List EvenementHttp) (e : EvenementHttp) :
    (run http.step (.idle s) (es ++ [e])).store = (run http.step (.idle s) es).store ∨
      ∃ i q, e = .avancer i ∧ http.Recue s es i q ∧
        Portee q (run http.step (.idle s) es).store
          (run http.step (.idle s) (es ++ [e])).store := by
  rw [run_append]
  rcases store_step http (run http.step (.idle s) es) e with hsame | ⟨i, qp, rfl, hqp, hstore⟩
  · exact Or.inl hsame
  · obtain ⟨hrecue, hfinit⟩ := enCours_run http s es i qp hqp
    rcases store_of_finitPar hfinit (run http.step (.idle s) es).store with hsame | ⟨ws, hu, hc⟩
    · exact Or.inl (hstore.trans hsame)
    · refine Or.inr ⟨i, qp.1, rfl, hrecue, ?_⟩
      rw [← hstore] at hc
      exact portee_of_unite hu hc

end Http

/-- After the events `es`, the event `e` is an access of a request that came from somebody: the
requests are numbered as they are let through. -/
def Http.FaitPar (http : Http) (s : Tables) (es : List EvenementHttp) (e : EvenementHttp)
    (qui : Tables → RequeteHttp → Prop) : Prop :=
  ∃ es₁ r es₂ q, es = es₁ ++ .recevoir r :: es₂ ∧
    http.decider (run http.step (.idle s) es₁).store r = .requete q ∧
    e = .avancer (run http.step (.idle s) es₁).procs.length ∧
    qui (run http.step (.idle s) es₁).store r

/-- The request of an event came from whom it was let through for. -/
theorem Http.Recue.faitPar {http : Http} {s : Tables} {es : List EvenementHttp} {i : ℕ}
    {q : Requete} {qui : Tables → RequeteHttp → Prop} (h : http.Recue s es i q)
    (hqui : ∀ t r, Admise http t r q → qui t r) : http.FaitPar s es (.avancer i) qui := by
  obtain ⟨es₁, r, es₂, rfl, rfl, hq⟩ := h
  exact ⟨es₁, r, es₂, q, rfl, hq, rfl, hqui _ r (admise_of_decider hq)⟩

/-- **Who may change what.**  In every interleaving of HTTP requests, an event that changes the
tables is an access of a request of somebody who may make the change. -/
theorem changes_authorised (http : Http) (s : Tables) (es : List EvenementHttp)
    (e : EvenementHttp) :
    let t := (run http.step (.idle s) es).store
    let t' := (run http.step (.idle s) (es ++ [e])).store
    (t'.livre ≠ t.livre → http.FaitPar s es e fun u r => http.Agit u r "ROLE_ADMIN") ∧
    (t'.emprunt ≠ t.emprunt → http.FaitPar s es e fun u r => http.Agit u r "ROLE_BIBLIO") ∧
    (∀ x ∈ t'.reservations.rows, x ∉ t.reservations.rows → http.FaitPar s es e fun u r =>
      http.Agit u r "ROLE_BIBLIO" ∨ http.ParJeton u r x.utilisateur) ∧
    (∀ x ∈ t.reservations.rows, x ∉ t'.reservations.rows → http.FaitPar s es e fun u r =>
      http.Agit u r "ROLE_BIBLIO" ∨ ∃ user, http.ParJeton u r user ∧ r.methode = .delete ∧
        ∃ i, segments r.path = ["api", "reservations", i] ∧ http.entityId i = some x.id) ∧
    (∀ x ∈ t'.utilisateur.rows, x ∉ t.utilisateur.rows → http.FaitPar s es e fun u r =>
      http.Agit u r "ROLE_BIBLIO" ∨ http.ParJeton u r x.id ∨ http.ParMotDePasse u r x.id) ∧
    (∀ id, t.hasUtilisateur id = true → t'.hasUtilisateur id = false →
      http.FaitPar s es e fun u r => http.Agit u r "ROLE_ADMIN") := by
  intro t t'
  rcases http.portee_step s es e with hsame | ⟨i, q, rfl, hrecue, hportee⟩
  · -- nothing has changed
    rw [show t' = t from hsame]
    refine ⟨fun hne => absurd rfl hne, fun hne => absurd rfl hne, fun x hx hn => absurd hx hn,
      fun x hx hn => absurd hx hn, fun x hx hn => absurd hx hn, fun id hid hgone => ?_⟩
    rw [hid] at hgone
    cases hgone
  · refine ⟨fun hne => ?_, fun hne => ?_, fun x hx hn => ?_, fun x hx hn => ?_, fun x hx hn => ?_,
      fun id hid hgone => ?_⟩
    · exact hrecue.faitPar fun _ _ h => h.admin (hportee.livre hne)
    · exact hrecue.faitPar fun _ _ h => h.biblio (hportee.emprunt hne)
    · rcases hportee.reserve x hx hn with hg | ⟨l, now, rfl⟩
      · exact hrecue.faitPar fun _ _ h => Or.inl (h.biblio hg)
      · exact hrecue.faitPar fun _ _ h => Or.inr h.reservation
    · rcases hportee.annule x hx hn with hg | ⟨u, rfl⟩
      · exact hrecue.faitPar fun _ _ h => Or.inl (h.biblio hg)
      · exact hrecue.faitPar fun _ _ h => Or.inr ⟨u, h.annulation⟩
    · rcases hportee.compte x hx hn with hg | hmembre
      · exact hrecue.faitPar fun _ _ h => Or.inl (h.biblio hg)
      · exact hrecue.faitPar fun _ _ h => Or.inr (h.membre hmembre)
    · exact hrecue.faitPar fun _ _ h => h.admin (hportee.supprime id hid hgone)

end Biblio
