import Biblio.Http
import Biblio.Text.Decimal

/-!
# Paths and routes

Every call of the Angular client reaches the controller it is meant for, with the row it names; and
a controller is reached by some path and method unless its route has the name of a later one, which
is so of `AuthController::me` and `ReservationsController::index` (`routing_of_calls`).

The routes of the API that write for an account are behind the firewall `api`, and the pages of
EasyAdmin behind `main`: `firewall_api` and `firewall_admin` follow a path from its parts back to
its text, which is what the patterns of `security.yaml` look at.
-/

namespace Biblio

/-! ### Paths -/

/-- A path is its parts, each after a slash. -/
theorem toList_of_segments {path : String} (h : segments path ≠ []) :
    path.toList = '/' :: ['/'].intercalate ((segments path).map String.toList) := by
  unfold segments at h ⊢
  split
  · next cs hcs =>
    have hback : ((cs.splitOn '/').map String.ofList).map String.toList = cs.splitOn '/' := by
      rw [List.map_map]
      simp [Function.comp_def]
    rw [hback, List.intercalate_splitOn, hcs]
  · next hno =>
    split at h
    · next cs hcs => exact absurd hcs (hno cs)
    · exact absurd rfl h

/-- The pages of EasyAdmin are behind the firewall `main`. -/
theorem firewall_admin {path : String} (h : (segments path).head? = some "admin") :
    firewall path = .main := by
  obtain ⟨parts, hparts⟩ : ∃ parts, segments path = "admin" :: parts := by
    cases hs : segments path with
    | nil =>
      rw [hs] at h
      cases h
    | cons t ts =>
      rw [hs] at h
      exact ⟨ts, by rw [Option.some.inj h]⟩
  have hne : segments path ≠ [] := by
    rw [hparts]
    exact List.cons_ne_nil _ _
  have hpath := toList_of_segments hne
  obtain ⟨suite, hsuite⟩ : ∃ suite, path.toList = '/' :: 'a' :: 'd' :: suite := by
    rw [hpath, hparts]
    cases parts with
    | nil => exact ⟨_, rfl⟩
    | cons t ts => exact ⟨_, rfl⟩
  unfold firewall debute
  rw [hsuite]
  simp [List.isPrefixOf]

/-- A route that a path and a method lead to. -/
theorem mem_routes_of_trouverRoute {m : Methode} {parts : List String} {action : Action}
    {id : Option String} (h : trouverRoute m parts = .ok (action, id)) :
    ∃ r ∈ routes, correspond r.chemin parts = some id ∧ r.accepte m = true ∧ r.action = action := by
  unfold trouverRoute at h
  dsimp only at h
  split at h
  · next r id' hfind =>
    obtain ⟨rfl, rfl⟩ := Prod.mk.inj (Except.ok.inj h)
    obtain ⟨r', hr', hmap⟩ := List.mem_filterMap.mp (List.mem_of_find?_eq_some hfind)
    obtain ⟨id'', hid'', heq⟩ := Option.map_eq_some_iff.mp hmap
    obtain ⟨rfl, rfl⟩ := Prod.mk.inj heq
    have haccepte := List.find?_some hfind
    exact ⟨r', hr', hid'', haccepte, rfl⟩
  · cases h

/-! ### The routes of the API that write for an account -/

theorem route_updateMe : ∀ r ∈ routes, r.action = .updateMe →
    r.chemin = [.fixe "api", .fixe "user", .fixe "me"] := by
  decide

theorem route_reservationsCreate : ∀ r ∈ routes, r.action = .reservationsCreate →
    r.chemin = [.fixe "api", .fixe "reservations", .id] := by
  decide

theorem route_reservationsDelete : ∀ r ∈ routes, r.action = .reservationsDelete →
    r.chemin = [.fixe "api", .fixe "reservations", .id] ∧ r.methodes = [.delete] := by
  decide

theorem correspond_fixe {t : String} {reste : List Segment} {parts : List String}
    {id : Option String} (h : correspond (.fixe t :: reste) parts = some id) :
    ∃ ts, parts = t :: ts ∧ correspond reste ts = some id := by
  cases parts with
  | nil => simp [correspond] at h
  | cons t' ts =>
    rw [correspond] at h
    split_ifs at h with heq
    exact ⟨ts, by rw [heq], h⟩

theorem correspond_id {parts : List String} {id : Option String}
    (h : correspond [.id] parts = some id) : ∃ t, parts = [t] ∧ id = some t := by
  cases parts with
  | nil => simp [correspond] at h
  | cons t ts =>
    rw [correspond] at h
    split_ifs at h
    obtain ⟨id', hid', rfl⟩ := Option.map_eq_some_iff.mp h
    cases ts with
    | nil => exact ⟨t, rfl, rfl⟩
    | cons t' ts' => simp [correspond] at hid'

theorem parts_of_correspond_me {parts : List String} {id : Option String}
    (h : correspond [.fixe "api", .fixe "user", .fixe "me"] parts = some id) :
    parts = ["api", "user", "me"] := by
  obtain ⟨ts, rfl, h₁⟩ := correspond_fixe h
  obtain ⟨ts', rfl, h₂⟩ := correspond_fixe h₁
  obtain ⟨ts'', rfl, h₃⟩ := correspond_fixe h₂
  cases ts'' with
  | nil => rfl
  | cons t ts => simp [correspond] at h₃

theorem parts_of_correspond_reservations {parts : List String} {id : Option String}
    (h : correspond [.fixe "api", .fixe "reservations", .id] parts = some id) :
    ∃ t, parts = ["api", "reservations", t] ∧ id = some t := by
  obtain ⟨ts, rfl, h₁⟩ := correspond_fixe h
  obtain ⟨ts', rfl, h₂⟩ := correspond_fixe h₁
  obtain ⟨t, rfl, hid⟩ := correspond_id h₂
  exact ⟨t, rfl, hid⟩

/-- Paths that start with `/api/u` or `/api/r` are behind the firewall `api`. -/
theorem firewall_api {path t : String} {ts : List String} (h : segments path = "api" :: t :: ts)
    (ht : t = "user" ∨ t = "reservations") : firewall path = .api := by
  have hne : segments path ≠ [] := by
    rw [h]
    exact List.cons_ne_nil _ _
  have hpath := toList_of_segments hne
  obtain ⟨c, suite, hsuite, hc⟩ : ∃ c suite,
      path.toList = '/' :: 'a' :: 'p' :: 'i' :: '/' :: c :: suite ∧ c ≠ 'l' := by
    rw [hpath, h]
    rcases ht with rfl | rfl <;> cases ts <;> exact ⟨_, _, rfl, by decide⟩
  unfold firewall debute
  rw [hsuite]
  simp [List.isPrefixOf, hc.symm]

/-- `AuthController::me` and `ReservationsController::index` are not reached by any path and method,
and all others are. -/
theorem reachable_iff (action : Action) :
    (∃ m path id, trouverRoute m (segments path) = .ok (action, id)) ↔
      action ≠ .authMe ∧ action ≠ .reservationsIndex := by
  constructor
  · rintro ⟨m, path, id, h⟩
    have hall : ∀ r ∈ routes, r.action ≠ .authMe ∧ r.action ≠ .reservationsIndex := by decide
    obtain ⟨r, hr, -, -, rfl⟩ := mem_routes_of_trouverRoute h
    exact hall r hr
  · rintro ⟨hme, hindex⟩
    cases action with
    | authMe => exact absurd rfl hme
    | reservationsIndex => exact absurd rfl hindex
    | angularIndex => exact ⟨.get, "/app", _, rfl⟩
    | auteurIndex => exact ⟨.get, "/api/auteurs", _, rfl⟩
    | auteurShow => exact ⟨.get, "/api/auteurs/1", _, rfl⟩
    | authLogin => exact ⟨.post, "/api/login_check", _, rfl⟩
    | categorieIndex => exact ⟨.get, "/api/categories", _, rfl⟩
    | categorieShow => exact ⟨.get, "/api/categories/1", _, rfl⟩
    | livreIndex => exact ⟨.get, "/api/livres", _, rfl⟩
    | livreShow => exact ⟨.get, "/api/livres/1", _, rfl⟩
    | register => exact ⟨.post, "/api/register", _, rfl⟩
    | reservationsCreate => exact ⟨.post, "/api/reservations/1", _, rfl⟩
    | reservationsDelete => exact ⟨.delete, "/api/reservations/1", _, rfl⟩
    | getStats => exact ⟨.get, "/api/admin/stats", _, rfl⟩
    | mesEmprunts => exact ⟨.get, "/api/mes-emprunts", _, rfl⟩
    | mesReservations => exact ⟨.get, "/api/mes-reservations", _, rfl⟩
    | userMe => exact ⟨.get, "/api/user/me", _, rfl⟩
    | updateMe => exact ⟨.put, "/api/user/me", _, rfl⟩
    | homeIndex => exact ⟨.get, "/", _, rfl⟩
    | securityLogin => exact ⟨.get, "/login", _, rfl⟩
    | securityLogout => exact ⟨.get, "/logout", _, rfl⟩
    | toSymfony => exact ⟨.get, "/sso/to-symfony", _, rfl⟩
    | toAngular => exact ⟨.get, "/sso/to-angular", _, rfl⟩
    | logoutRedirect => exact ⟨.get, "/sso/logout-redirect", _, rfl⟩

/-! ### The calls of the client -/

theorem toList_toString_nat (n : ℕ) : (toString n).toList = Nat.toDigits 10 n :=
  Nat.toList_repr

theorem toString_nat_ne_empty (n : ℕ) : toString n ≠ "" := by
  intro h
  have hlist := congrArg String.toList h
  rw [toList_toString_nat] at hlist
  exact Nat.toDigits_ne_nil hlist

/-- A number at the end of a path is its last part. -/
theorem segments_toString {debut : String} (n : ℕ) (cs : List Char)
    (h : debut.toList = '/' :: (cs ++ ['/'])) :
    segments (debut ++ toString n) = (cs.splitOn '/').map String.ofList ++ [toString n] := by
  have hslash : '/' ∉ (toString n).toList := by
    rw [toList_toString_nat]
    exact fun hmem => absurd (isDigit_of_mem hmem) (by decide)
  have hpath : (debut ++ toString n).toList = '/' :: (cs ++ '/' :: (toString n).toList) := by
    rw [String.toList_append, h]
    simp
  unfold segments
  rw [hpath]
  show (List.splitOn '/' (cs ++ '/' :: (toString n).toList)).map String.ofList = _
  rw [List.splitOn_append_cons_self, List.splitOn_eq_singleton hslash, List.map_append,
    List.map_singleton, String.ofList_toList]

/-- The routes once those with the name of a later one are gone. -/
theorem routes_eq : routes =
    [ ⟨"app_angular", [.fixe "app", .reste], [], .angularIndex⟩,
      ⟨"api_auteurs", [.fixe "api", .fixe "auteurs"], [.get], .auteurIndex⟩,
      ⟨"api_auteurs_show", [.fixe "api", .fixe "auteurs", .id], [.get], .auteurShow⟩,
      ⟨"api_login_check", [.fixe "api", .fixe "login_check"], [.post], .authLogin⟩,
      ⟨"api_categories", [.fixe "api", .fixe "categories"], [.get], .categorieIndex⟩,
      ⟨"api_categories_show", [.fixe "api", .fixe "categories", .id], [.get], .categorieShow⟩,
      ⟨"api_livres", [.fixe "api", .fixe "livres"], [.get], .livreIndex⟩,
      ⟨"api_livres_show", [.fixe "api", .fixe "livres", .id], [.get], .livreShow⟩,
      ⟨"api_register", [.fixe "api", .fixe "register"], [.post], .register⟩,
      ⟨"api_reservation_create", [.fixe "api", .fixe "reservations", .id], [.post],
        .reservationsCreate⟩,
      ⟨"api_reservation_delete", [.fixe "api", .fixe "reservations", .id], [.delete],
        .reservationsDelete⟩,
      ⟨"api_admin_stats", [.fixe "api", .fixe "admin", .fixe "stats"], [.get], .getStats⟩,
      ⟨"api_mes_emprunts", [.fixe "api", .fixe "mes-emprunts"], [.get], .mesEmprunts⟩,
      ⟨"api_mes_reservations", [.fixe "api", .fixe "mes-reservations"], [.get],
        .mesReservations⟩,
      ⟨"api_user_me", [.fixe "api", .fixe "user", .fixe "me"], [.get], .userMe⟩,
      ⟨"api_user_me_update", [.fixe "api", .fixe "user", .fixe "me"], [.put], .updateMe⟩,
      ⟨"app_home", [.fixe ""], [], .homeIndex⟩,
      ⟨"app_login", [.fixe "login"], [], .securityLogin⟩,
      ⟨"app_logout", [.fixe "logout"], [], .securityLogout⟩,
      ⟨"sso_to_symfony", [.fixe "sso", .fixe "to-symfony"], [], .toSymfony⟩,
      ⟨"sso_to_angular", [.fixe "sso", .fixe "to-angular"], [], .toAngular⟩,
      ⟨"sso_logout_redirect", [.fixe "sso", .fixe "logout-redirect"], [], .logoutRedirect⟩ ] :=
  rfl

/-- The routes with a parameter, for a part that is not empty. -/
theorem trouverRoute_id {t : String} (ht : t ≠ "") :
    trouverRoute .get ["api", "livres", t] = .ok (.livreShow, some t) ∧
      trouverRoute .get ["api", "auteurs", t] = .ok (.auteurShow, some t) ∧
      trouverRoute .post ["api", "reservations", t] = .ok (.reservationsCreate, some t) ∧
      trouverRoute .delete ["api", "reservations", t] = .ok (.reservationsDelete, some t) := by
  unfold trouverRoute
  rw [routes_eq]
  refine ⟨?_, ?_, ?_, ?_⟩ <;> simp [correspond, Route.accepte, ht]

theorem route_of_call (a : AppelClient) :
    trouverRoute a.methode (segments a.path) = .ok (a.action, a.id.map toString) := by
  cases a with
  | getLivre id =>
    have hparts : segments (AppelClient.getLivre id).path = ["api", "livres", toString id] :=
      segments_toString id "api/livres".toList rfl
    rw [hparts]
    exact (trouverRoute_id (toString_nat_ne_empty id)).1
  | getAuteur id =>
    have hparts : segments (AppelClient.getAuteur id).path = ["api", "auteurs", toString id] :=
      segments_toString id "api/auteurs".toList rfl
    rw [hparts]
    exact (trouverRoute_id (toString_nat_ne_empty id)).2.1
  | reserveLivre id =>
    have hparts :
        segments (AppelClient.reserveLivre id).path = ["api", "reservations", toString id] :=
      segments_toString id "api/reservations".toList rfl
    rw [hparts]
    exact (trouverRoute_id (toString_nat_ne_empty id)).2.2.1
  | annulerReservation id =>
    have hparts :
        segments (AppelClient.annulerReservation id).path = ["api", "reservations", toString id] :=
      segments_toString id "api/reservations".toList rfl
    rw [hparts]
    exact (trouverRoute_id (toString_nat_ne_empty id)).2.2.2
  | _ => rfl

/-- **Routes.**  Every call of the client reaches the controller it is meant for; and all
controllers but two are reached by some path and method. -/
theorem routing_of_calls :
    (∀ a : AppelClient,
      trouverRoute a.methode (segments a.path) = .ok (a.action, a.id.map toString)) ∧
    ∀ action, (∃ m path id, trouverRoute m (segments path) = .ok (action, id)) ↔
      action ≠ .authMe ∧ action ≠ .reservationsIndex :=
  ⟨route_of_call, reachable_iff⟩

end Biblio
