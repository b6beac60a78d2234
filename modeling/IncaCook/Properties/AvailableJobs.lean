import IncaCook.Model.AvailableJobs
import IncaCook.Model.System

/-!
# Pages of available jobs

A page is cut out of a ranking by distance, but its rows are loaded by creation time before
the row beyond the limit is dropped, so the row that is dropped is the youngest and not the
farthest.

Main results:

* `job_page_iff`: a page is the next `limit` deliveries in nearest-first order if and only if
  the deliveries of its window stand in order of age, too;
* `jobs_once_iff`: following the pages lists every delivery exactly once if and only if the
  farthest delivery of each full window is its youngest;
* `jobs_exact_iff`: all pages are right if and only if whatever is nearer is older.
-/

namespace IncaCook

open Prog Paging Deliveries List

variable {Point Distance : Type} [LinearOrder Distance] {dir : Directory Point Distance} {db : Db}
  {supabaseId : String} {driver : UserId} {limit offset : Nat} {w : Nat → Answer}

/-! ## What the pages should be -/

/-- The deliveries that can be claimed. -/
def unclaimedJobs (db : Db) : List Delivery := db.deliveries.rows.filter isUnclaimed

/-- They are ordered by distance, then by creation time. -/
def nearestFirst (dir : Directory Point Distance) (db : Db) (driver : UserId) : List Delivery :=
  orderBy (rankingKey dir db driver) (unclaimedJobs db)

/-- The delivery was created earlier, or at the same time and stands before the other. -/
def Older (db : Db) : Delivery → Delivery → Prop := Before Delivery.createdAt db.deliveries.rows

/-- The request returns a page with these deliveries. -/
def ShowsJobs (dir : Directory Point Distance) (db : Db) (supabaseId : String) (limit offset : Nat)
    (w : Nat → Answer) (jobs : List Delivery) : Prop :=
  ∃ page, (listAvailable dir supabaseId limit offset).Returns w db page ∧
    page.items.map (fun i => i.1.row) = jobs

structure JobsExact (dir : Directory Point Distance) (db : Db) (supabaseId : String) (driver : UserId)
    (limit : Nat) : Prop where
  /-- a page has the next `limit` deliveries in nearest-first order -/
  page : ∀ w offset, ShowsJobs dir db supabaseId limit offset w
    (((nearestFirst dir db driver).drop offset).take limit)
  /-- the pages from offsets `0`, `limit`, `2 * limit`, … list every delivery exactly once -/
  once : ∀ (w : Nat → Nat → Answer) (pages : Nat → List Delivery),
    (∀ k, ShowsJobs dir db supabaseId limit (k * limit) (w k) (pages k)) →
    ∀ n, (unclaimedJobs db).length ≤ n * limit → (range n).flatMap pages ~ unclaimedJobs db

/-- The session is the driver's. -/
structure IsDriver (db : Db) (supabaseId : String) (driver : UserId) : Prop where
  user : ∃ u, db.userBySupabaseId supabaseId = some u ∧ u.role = .driver ∧ u.id = driver
  profile : ∃ p, db.driverProfiles.find? driver = some p

/-- The foreign keys that the queries join along. -/
def JobKeys (db : Db) : Prop := ∀ d ∈ db.deliveries.rows, (joinSeller db d).isSome = true

/-! ## What the code returns -/

theorem returns_assertDriver_bind (hdriver : IsDriver db supabaseId driver) {β : Type} :
    ∃ d : Driver, d.userId = driver ∧ ∀ (k : Driver → Handler β) (w : Nat → Answer) (b : β),
      (k d).Returns (fun n => w (n + 1)) db b → (assertDriver supabaseId >>= k).Returns w db b := by
  obtain ⟨⟨u, hu, hrole, hid⟩, p, hp⟩ := hdriver
  have hkey : p.userId = driver := Table.key_of_find? hp
  refine ⟨⟨p.userId, p.kycStatus, u.isSuspended⟩, hkey, fun k w b hk => ?_⟩
  unfold assertDriver
  simp only [bind_assoc]
  rw [returns_read_bind]
  refine returns_orThrow_bind.mpr ⟨u, hu, returns_throwIf_bind.mpr ⟨not_not.mpr hrole, ?_⟩⟩
  refine returns_orThrow_bind.mpr ⟨p, ?_, hk⟩
  rw [hu, Option.bind_some, hid, hp]

theorem rankedJobs_eq (hkeys : JobKeys db) : rankedJobs dir db driver = nearestFirst dir db driver := by
  unfold rankedJobs nearestFirst unclaimedJobs
  congr 1
  refine filter_congr fun d hd => ?_
  rw [hkeys d hd, Bool.and_true]

theorem mem_nearestFirst {d : Delivery} :
    d ∈ nearestFirst dir db driver ↔ d ∈ db.deliveries.rows ∧ isUnclaimed d = true := by
  unfold nearestFirst unclaimedJobs
  rw [mem_orderBy, mem_filter]

theorem deliveries_nodup (db : Db) : db.deliveries.rows.Nodup := Nodup.of_map _ db.deliveries.nodup

theorem nearestFirst_nodup : (nearestFirst dir db driver).Nodup :=
  (orderBy_perm _ _).nodup_iff.mpr ((deliveries_nodup db).filter _)

theorem nearestFirst_pairwise : (nearestFirst dir db driver).Pairwise
    (Before (rankingKey dir db driver) db.deliveries.rows) :=
  reload_pairwise (deliveries_nodup db)

/-- The rows of a window, as they are loaded. -/
def loadedJobs (dir : Directory Point Distance) (db : Db) (driver : UserId) (limit offset : Nat) :
    List Delivery :=
  orderBy Delivery.createdAt (db.deliveries.rows.filter fun d =>
    d.id ∈ (window limit offset (nearestFirst dir db driver)).map Delivery.id)

theorem loadedJobs_perm :
    loadedJobs dir db driver limit offset ~ window limit offset (nearestFirst dir db driver) := by
  have hsub : window limit offset (nearestFirst dir db driver) ⊆ db.deliveries.rows := fun d hd =>
    (mem_nearestFirst.mp ((window_sublist limit offset).subset hd)).1
  refine reload_perm (deliveries_nodup db) (nearestFirst_nodup.sublist (window_sublist limit offset)) hsub
    fun d hd => ?_
  rw [decide_eq_true_iff, mem_map]
  constructor
  · rintro ⟨d', hd', hid⟩
    obtain rfl := Table.eq_of_key_eq (hsub hd') hd hid
    exact hd'
  · exact fun hd => ⟨d, hd, rfl⟩

theorem loadedJobs_pairwise : (loadedJobs dir db driver limit offset).Pairwise (Older db) :=
  reload_pairwise (deliveries_nodup db)

omit [LinearOrder Distance] in
/-- Every row is loaded with its relations. -/
theorem map_withRelations (hkeys : JobKeys db) {l : List Delivery} (hl : l ⊆ db.deliveries.rows) :
    (l.filterMap (withRelations dir db)).map DeliveryWithRelations.row = l := by
  induction l with
  | nil => rfl
  | cons d l ih =>
    rw [cons_subset] at hl
    obtain ⟨⟨o, s⟩, hjoin⟩ := Option.isSome_iff_exists.mp (hkeys d hl.1)
    obtain ⟨o', ho, -⟩ := Option.bind_eq_some_iff.mp hjoin
    have hd : ∃ r, withRelations dir db d = some r ∧ r.row = d := by
      unfold withRelations
      rw [ho]
      exact ⟨_, rfl, rfl⟩
    obtain ⟨r, hr, hrow⟩ := hd
    rw [filterMap_cons_some hr, map_cons, ih hl.2, hrow]

theorem cutPage_rows {ids : List DeliveryId} {rows : List DeliveryWithRelations}
    {enrichment : List (DeliveryId × DeliveryEnrichment)} (hlen : rows.length = ids.length) :
    (cutPage limit ids rows enrichment).items.map (fun i => i.1.row) =
      (rows.map DeliveryWithRelations.row).take limit := by
  unfold cutPage
  rw [← hlen, map_map, ← map_take]
  by_cases hmore : rows.length > limit
  · rw [decide_eq_true hmore, if_pos rfl]
    rfl
  · rw [decide_eq_false hmore, if_neg Bool.false_ne_true, take_of_length_le (Nat.le_of_not_gt hmore)]
    rfl

/-- The first `limit` rows of the window by creation time, and whether there are more. -/
theorem listAvailable_returns (hdriver : IsDriver db supabaseId driver) (hkeys : JobKeys db)
    (w : Nat → Answer) : ∃ page, (listAvailable dir supabaseId limit offset).Returns w db page ∧
      page.items.map (fun i => i.1.row) = (loadedJobs dir db driver limit offset).take limit ∧
      (page.hasMore = true ↔ limit < (window limit offset (nearestFirst dir db driver)).length) := by
  obtain ⟨d, hd, hbind⟩ : ∃ d : Driver, d.userId = driver ∧
      ∀ (k : Driver → Handler AvailableJobs) (w : Nat → Answer) (b : AvailableJobs),
        (k d).Returns (fun n => w (n + 1)) db b → (assertDriver supabaseId >>= k).Returns w db b :=
    returns_assertDriver_bind hdriver
  have hloaded : loadedJobs dir db driver limit offset ~ window limit offset (nearestFirst dir db driver) :=
    loadedJobs_perm
  -- an empty window ends the call before anything is loaded
  by_cases hnone : window limit offset (nearestFirst dir db driver) = []
  · refine ⟨⟨[], false⟩, hbind _ _ _ ?_, ?_, ?_⟩
    · rw [returns_read_bind, hd, rankedJobs_eq hkeys, hnone]
      rfl
    · rw [hnone] at hloaded
      rw [perm_nil.mp hloaded, take_nil]
      rfl
    · rw [hnone]
      simp
  · have hids : (window limit offset (nearestFirst dir db driver)).map Delivery.id ≠ [] :=
      fun h => hnone (map_eq_nil_iff.mp h)
    have hsub : loadedJobs dir db driver limit offset ⊆ db.deliveries.rows := fun d hd =>
      (mem_filter.mp (mem_orderBy.mp hd)).1
    obtain ⟨enrichment, hrun⟩ : ∃ enrichment, (listAvailable dir supabaseId limit offset).Returns w db
        (cutPage limit ((window limit offset (nearestFirst dir db driver)).map Delivery.id)
          ((loadedJobs dir db driver limit offset).filterMap (withRelations dir db)) enrichment) := by
      refine ⟨(db.deliveries.rows.filter fun d => d.id ∈
        (window limit offset (nearestFirst dir db driver)).map Delivery.id).filterMap (enrichmentRow dir db),
        hbind _ _ _ ?_⟩
      rw [returns_read_bind, hd, rankedJobs_eq hkeys]
      simp only
      rw [if_neg hids, returns_read_bind, loadDeliveryEnrichment, if_neg hids, returns_read_bind]
      exact returns_pure.mpr rfl
    have hrows : ((loadedJobs dir db driver limit offset).filterMap (withRelations dir db)).map
        DeliveryWithRelations.row = loadedJobs dir db driver limit offset := map_withRelations hkeys hsub
    -- no row is lost on the way: each one has its order and its seller
    have hlen : ((loadedJobs dir db driver limit offset).filterMap (withRelations dir db)).length =
        ((window limit offset (nearestFirst dir db driver)).map Delivery.id).length := by
      rw [length_map, ← hloaded.length_eq]
      conv_rhs => rw [← hrows, length_map]
    refine ⟨_, hrun, ?_, ?_⟩
    · rw [cutPage_rows hlen, hrows]
    · unfold cutPage
      rw [decide_eq_true_iff, length_map]

/-- **What a page shows**: the first `limit` rows of the window, by creation time. -/
theorem shows_iff (hdriver : IsDriver db supabaseId driver) (hkeys : JobKeys db) {jobs : List Delivery} :
    ShowsJobs dir db supabaseId limit offset w jobs ↔
      jobs = (loadedJobs dir db driver limit offset).take limit := by
  obtain ⟨page, hpage, hitems, -⟩ : ∃ page, (listAvailable dir supabaseId limit offset).Returns w db page ∧
      page.items.map (fun i => i.1.row) = (loadedJobs dir db driver limit offset).take limit ∧
      (page.hasMore = true ↔ limit < (window limit offset (nearestFirst dir db driver)).length) :=
    listAvailable_returns hdriver hkeys w
  constructor
  · rintro ⟨page', hpage', rfl⟩
    rw [← hitems, Except.ok.inj (hpage'.symm.trans hpage)]
  · rintro rfl
    exact ⟨page, hpage, hitems⟩

/-! ## When the pages are right -/

theorem job_page_iff (hdriver : IsDriver db supabaseId driver) (hkeys : JobKeys db) :
    ShowsJobs dir db supabaseId limit offset w (((nearestFirst dir db driver).drop offset).take limit) ↔
      (window limit offset (nearestFirst dir db driver)).Pairwise (Older db) := by
  rw [shows_iff hdriver hkeys, eq_comm, ← take_window]
  exact take_reload_iff (deliveries_nodup db) loadedJobs_perm (length_window limit offset) loadedJobs_pairwise

/-- **A job that is missed, and one that is shown twice.** Following the pages lists every
delivery exactly once if and only if, in each window that has a row beyond the limit, that row
is the youngest. -/
theorem jobs_once_iff (hdriver : IsDriver db supabaseId driver) (hkeys : JobKeys db)
    {ws : Nat → Nat → Answer} {pages : Nat → List Delivery} {n : Nat}
    (hpages : ∀ k, ShowsJobs dir db supabaseId limit (k * limit) (ws k) (pages k))
    (hn : (unclaimedJobs db).length ≤ n * limit) :
    (range n).flatMap pages ~ unclaimedJobs db ↔
      ∀ k < n, ∀ a ∈ (window limit (k * limit) (nearestFirst dir db driver)).take limit,
        ∀ b ∈ (window limit (k * limit) (nearestFirst dir db driver)).drop limit, Older db a b := by
  have hpage : ∀ k, pages k = (loadedJobs dir db driver limit (k * limit)).take limit := fun k =>
    (shows_iff hdriver hkeys).mp (hpages k)
  have hranked : nearestFirst dir db driver ~ unclaimedJobs db := orderBy_perm _ _
  have hlength : ∀ k, (pages k).length = (((nearestFirst dir db driver).drop (k * limit)).take limit).length := by
    intro k
    rw [hpage k, length_take, loadedJobs_perm.length_eq, ← take_window, length_take]
  have hsub : ∀ k, pages k ⊆ (nearestFirst dir db driver).drop (k * limit) := by
    intro k d hd
    rw [hpage k] at hd
    exact take_subset _ _ (loadedJobs_perm.mem_iff.mp (mem_of_mem_take hd))
  rw [← (hranked.congr_right _), flatMap_pages_perm_iff nearestFirst_nodup (hranked.length_eq ▸ hn) hlength hsub]
  refine forall₂_congr fun k _ => ?_
  rw [hpage k, ← take_window]
  exact take_reload_perm_iff (deliveries_nodup db) loadedJobs_perm (length_window limit _) loadedJobs_pairwise

/-- Nearer first: by distance, and by age where the distance is the same. -/
theorem before_ranking_iff {a b : Delivery} : Before (rankingKey dir db driver) db.deliveries.rows a b ↔
    jobDistance dir db driver a < jobDistance dir db driver b ∨
      jobDistance dir db driver a = jobDistance dir db driver b ∧ Older db a b := by
  unfold Older Before rankingKey
  rw [Prod.Lex.toLex_lt_toLex, toLex_inj, Prod.mk.injEq]
  tauto

/-- The whole ranking is in order of age if and only if whatever is nearer is older. -/
theorem ranking_aged_iff : (nearestFirst dir db driver).Pairwise (Older db) ↔
    ∀ a ∈ unclaimedJobs db, ∀ b ∈ unclaimedJobs db,
      jobDistance dir db driver a < jobDistance dir db driver b → Older db a b := by
  have hmem : ∀ d, d ∈ nearestFirst dir db driver ↔ d ∈ unclaimedJobs db := fun d =>
    (orderBy_perm _ _).mem_iff
  constructor
  · intro haged a ha b hb hnear
    have hbefore : Before (rankingKey dir db driver) db.deliveries.rows a b :=
      before_ranking_iff.mpr (.inl hnear)
    have hne : a ≠ b := fun heq => hnear.ne (heq ▸ rfl)
    -- whichever of the two is ranked first
    rcases pair_sublist_or ((hmem a).mpr ha) ((hmem b).mpr hb) hne with hab | hba
    · exact pairwise_iff_forall_sublist.mp haged hab
    · exact absurd (pairwise_iff_forall_sublist.mp nearestFirst_pairwise hba)
        (hbefore.asymm (deliveries_nodup db))
  · intro hold
    refine nearestFirst_pairwise.imp_of_mem fun ha hb hab => ?_
    rcases before_ranking_iff.mp hab with hnear | ⟨-, hold'⟩
    · exact hold _ ((hmem _).mp ha) _ ((hmem _).mp hb) hnear
    · exact hold'

/-- **When every page is right.** For every state, driver and limit, each page has the next
`limit` unclaimed deliveries in nearest-first order, and following the pages lists each of
them exactly once, if and only if a delivery that is strictly nearer than another one is also
the older of the two. -/
theorem jobs_exact_iff (hdriver : IsDriver db supabaseId driver) (hkeys : JobKeys db) (hlimit : 1 ≤ limit) :
    JobsExact dir db supabaseId driver limit ↔
      ∀ a ∈ unclaimedJobs db, ∀ b ∈ unclaimedJobs db,
        jobDistance dir db driver a < jobDistance dir db driver b → Older db a b := by
  have htrans : ∀ a b c, Older db a b → Older db b c → Older db a c :=
    fun _ _ _ hab hbc => hab.trans (deliveries_nodup db) hbc
  rw [← ranking_aged_iff, ← windows_pairwise_iff htrans hlimit]
  constructor
  · exact fun h offset => (job_page_iff (w := fun _ => ⟨true, "", ""⟩) hdriver hkeys).mp (h.page _ offset)
  · intro haged
    refine ⟨fun w offset => (job_page_iff hdriver hkeys).mpr (haged offset), ?_⟩
    intro ws pages hpages n hn
    refine (jobs_once_iff hdriver hkeys hpages hn).mpr fun k _ a ha b hb => ?_
    -- a window in order of age: the rows beyond the limit are the youngest
    have hsplit := haged (k * limit)
    rw [← take_append_drop limit (window limit (k * limit) (nearestFirst dir db driver)), pairwise_append] at hsplit
    exact hsplit.2.2 a ha b hb

/-! ## A near job behind a far one -/

/-- The small marketplace, with a second seller. -/
def twoSellers : Db :=
  { smallTown with
    users := ⟨smallTown.users.rows ++
      [⟨⟨0, 104⟩, "neighbour", "neighbour@town", .seller, false, none, none, false, none, none⟩], by decide⟩
    sellerProfiles := ⟨smallTown.sellerProfiles.rows ++
      [⟨⟨0, 104⟩, .approved, some 300, false, .active, none, some "acct_n", true⟩], by decide⟩
    listings := ⟨smallTown.listings.rows ++
      [⟨⟨0, 111⟩, ⟨0, 104⟩, "Tajine", [], 1200, some 5, true, none, .both, none⟩], by decide⟩ }

/-- An order of the first seller is ready (delivery 3), and a minute later one of the second
(delivery 7). -/
def twoJobs : List (Input (service smallTownConfig)) :=
  [smallTownCall (.createOrder "buyer" smallTownOrder), .event (.paymentSucceeds (.stripe 1)),
    smallTownCall (.confirmPaymentForBuyer "buyer" ⟨0, 0⟩), smallTownCall (.startPreparing "seller" ⟨0, 0⟩),
    smallTownCall (.markReady "seller" ⟨0, 0⟩), .event (.tick 60000),
    .call (.createOrder "buyer" { smallTownOrder with items := [⟨⟨0, 111⟩, 1, none, none, one_portion⟩] })
      fun _ => ⟨true, "second", ""⟩,
    .event (.paymentSucceeds (.stripe 2)), smallTownCall (.confirmPaymentForBuyer "buyer" ⟨4, 0⟩),
    smallTownCall (.startPreparing "neighbour" ⟨4, 0⟩),
    .call (.markReady "neighbour" ⟨4, 0⟩) fun _ => ⟨true, "second", ""⟩]

def twoJobsTown : Db := (serialRun twoSellers twoJobs).state

/-- Along one street: the driver at its start, the second seller near, the first one far. -/
def street : Directory Nat Nat where
  lastKnownPoint _ := some 0
  location u := some (if u = ⟨0, 104⟩ then 1 else 5)
  point _ := some 9
  distance a b := (a - b) + (b - a)
  stX _ := .finite 0
  stY x := .finite x
  firstName _ := "Ada"
  lastName _ := ""
  neighborhood _ := none

theorem twoJobsTown_exact_iff : JobsExact street twoJobsTown "driver" ⟨0, 102⟩ 1 ↔
    ∀ a ∈ unclaimedJobs twoJobsTown, ∀ b ∈ unclaimedJobs twoJobsTown,
      jobDistance street twoJobsTown ⟨0, 102⟩ a < jobDistance street twoJobsTown ⟨0, 102⟩ b →
        Older twoJobsTown a b := by
  refine jobs_exact_iff ⟨⟨_, rfl, rfl, rfl⟩, ⟨_, rfl⟩⟩ ?_ (Nat.le_refl 1)
  unfold JobKeys
  decide +kernel

/-- The deliveries on a page, for a request that is answered. -/
def jobsOnPage (offset : Nat) : Option (List DeliveryId) :=
  ((listAvailable street "driver" 1 offset).exec (fun _ => ⟨true, "", ""⟩) twoJobsTown).result.toOption.map
    fun page => page.items.map fun i => i.1.row.id

/-- **The near job is never shown**, and the far one twice. -/
theorem near_job_missed : jobsOnPage 0 = some [⟨3, 2⟩] ∧ jobsOnPage 1 = some [⟨3, 2⟩] ∧
    (unclaimedJobs twoJobsTown).map Delivery.id = [⟨7, 2⟩, ⟨3, 2⟩] ∧
    ¬JobsExact street twoJobsTown "driver" ⟨0, 102⟩ 1 := by
  have hfirst : jobsOnPage 0 = some [⟨3, 2⟩] := by decide +kernel
  refine ⟨hfirst, by decide +kernel, by decide +kernel, fun h => ?_⟩
  obtain ⟨page, hpage, hitems⟩ := h.page (fun _ => ⟨true, "", ""⟩) 0
  have hshown : jobsOnPage 0 =
      some ((((nearestFirst street twoJobsTown ⟨0, 102⟩).drop 0).take 1).map Delivery.id) := by
    unfold jobsOnPage
    rw [hpage, ← hitems, map_map]
    rfl
  rw [hfirst] at hshown
  revert hshown
  decide +kernel

end IncaCook
