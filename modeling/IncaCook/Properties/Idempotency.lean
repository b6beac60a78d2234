import IncaCook.Model.Idempotency
import IncaCook.Steps.Moves

/-!
# One order for an Idempotency-Key

The controller looks the key up, creates the order and records the response in
separate steps, so a second request may look the key up in between.

Main results:

* `one_order_for_a_key`: in every interleaving in which a lookup that finds
  nothing comes after the earlier ones of that kind are over, at most one order
  is created, all successful requests get it, and a later request with another
  body is refused;
* `two_orders_for_a_key`: two requests that both look the key up first create
  two orders.
-/

namespace IncaCook

open Prog Pool Orders OrdersController

/-! ## Creating an order -/

section

variable {cfg : Config} {me : Nat} {h : List (StepRecord machine)} {s : Db}

/-- The step has placed the order. -/
def Placed (o : OrderId) (before after : Db) : Prop :=
  before.orders.find? o = none ∧ ∃ row, after.orders.find? o = some row

/-- An order that is returned is the one that was placed, under the call's first
identifier. -/
def ReturnsPlaced (me : Nat) : Post machine CreateOrderResult := fun h r _ =>
  ∀ result, r = .ok result →
    result.order.id = generateUlid me 0 ∧ ∃ t ∈ h, Placed (generateUlid me 0) t.pre t.post

/-- Whatever comes before the order transaction does not matter. -/
theorem before_placed {α : Type} {p : Handler α} {k : α → Handler CreateOrderResult}
    (hk : ∀ a h s, Sat endContract (ReturnsPlaced me) (k a) h s) :
    Sat endContract (ReturnsPlaced me) (p >>= k) h s :=
  sat_end_bind (fun _ _ _ _ hr => nomatch hr) hk

/-- What comes after it returns the order. -/
theorem after_placed {p : Handler CreateOrderResult} {order : Order}
    (hid : order.id = generateUlid me 0) (hplaced : ∃ t ∈ h, Placed (generateUlid me 0) t.pre t.post)
    (hp : Sat endContract (fun _ r _ => ∀ result, r = .ok result → result.order = order) p h s) :
    Sat endContract (ReturnsPlaced me) p h s := by
  let I (h : List (StepRecord machine)) (_ : Db) : Prop :=
    ∃ t ∈ h, Placed (generateUlid me 0) t.pre t.post
  refine (hp.keep (I := I) (fun _ _ _ _ hI => hI) (fun _ _ _ _ hI _ => ?_) hplaced).post ?_
  · obtain ⟨t, ht, hpl⟩ := hI
    exact ⟨t, List.mem_cons_of_mem _ ht, hpl⟩
  · rintro h r s ⟨hr, hpl⟩ result rfl
    exact ⟨by rw [hr result rfl, hid], hpl⟩

theorem createOrder_end {sub : String} {dto : CreateOrderDto} :
    Sat endContract (ReturnsPlaced me) (createOrder cfg me sub dto) h s := by
  unfold createOrder
  refine before_placed fun _ _ _ => before_placed fun _ _ _ => before_placed fun _ _ _ => ?_
  refine before_placed fun _ _ _ => before_placed fun _ _ _ => before_placed fun _ _ _ => ?_
  refine before_placed fun _ _ _ => before_placed fun _ _ _ => before_placed fun _ _ _ => ?_
  refine before_placed fun _ _ _ => before_placed fun _ _ _ => before_placed fun _ _ _ => ?_
  refine before_placed fun _ _ _ => before_placed fun _ h s => ?_
  refine sat_await_bind fun s₁ _ i => ⟨fun _ _ => ⟨trivial, fun _ hr => nomatch hr⟩, ?_⟩
  intro order s₂ hrun
  obtain ⟨listings, orders, -, hnew, horder, rfl⟩ := placeOrder_ok hrun
  have hid : order.id = generateUlid me 0 := by
    rw [horder]
    rfl
  have hplaced : Placed (generateUlid me 0) s₁ { s₁ with listings, orders } :=
    ⟨(Table.insert?_eq_some.mp hnew).1, _, (Table.find?_insert hnew _).trans (if_pos rfl)⟩
  refine ⟨trivial, after_placed hid ⟨_, List.mem_cons_self .., hplaced⟩ ?_⟩
  refine sat_end_bind (fun _ _ _ _ hr => nomatch hr) fun _ _ _ => ?_
  refine sat_end_bind (fun _ _ _ _ hr => nomatch hr) fun _ _ _ => ?_
  refine sat_end_bind (fun _ _ _ _ hr => nomatch hr) fun _ _ _ => ?_
  exact sat_pure fun result hr => by rw [← Except.ok.inj hr]

end

/-! ## What a step of a request can do -/

/-- The step is a lookup that finds nothing. -/
def Missed (t : StepRecord storeMachine) : Prop :=
  ∃ u key, t.site = .getKey u key ∧ t.pre.record? u key = none

/-- Sessions, orders and records stay. -/
structure StoreKept (s s' : Store) : Prop where
  users : ∀ sub, s'.db.userIdOf sub = s.db.userIdOf sub
  orders : ∀ o row, s.db.orders.find? o = some row → ∃ row', s'.db.orders.find? o = some row'
  records : ∀ u key r, s.record? u key = some r → s'.record? u key = some r

theorem StoreKept.refl (s : Store) : StoreKept s s :=
  ⟨fun _ => rfl, fun _ row hrow => ⟨row, hrow⟩, fun _ _ _ hr => hr⟩

theorem StoreKept.trans (a b c : Store) (hab : StoreKept a b) (hbc : StoreKept b c) :
    StoreKept a c := by
  refine ⟨fun sub => (hbc.users sub).trans (hab.users sub), fun o row hrow => ?_,
    fun u key r hr => hbc.records u key r (hab.records u key r hr)⟩
  obtain ⟨row', hrow'⟩ := hab.orders o row hrow
  exact hbc.orders o row' hrow'

/-- The request looks up, and records, under its user and its key. -/
def OrdersController.CreateRequest.Under (req : CreateRequest) (s : Store) (u : UserId)
    (key : String) : Prop :=
  s.db.userIdOf req.supabaseId = some u ∧ truthy req.idempotencyKey = some key

section

variable (sha256 : String → String) (me : Nat) (req : CreateRequest)
  (h : List (StepRecord storeMachine))

/-- The response is the request's own: the order it has placed. -/
structure OwnRecord (s : Store) (u : UserId) (key : String) (r : IdempotencyRecord) : Prop where
  under : req.Under s u key
  hash : r.requestHash = Idempotency.hashBody sha256 req.body
  order : r.responseBody.order.id = generateUlid me 0
  placed : ∃ t ∈ h, Placed (generateUlid me 0) t.pre.db t.post.db

/-- A step of call number `me` for a request, after its steps `h`. -/
structure StoreStep (t : StepRecord storeMachine) : Prop where
  kept : StoreKept t.pre t.post
  lookup : ∀ u key, t.site = .getKey u key → req.Under t.pre u key ∧ t.post = t.pre
  orders : ∀ o row, t.post.db.orders.find? o = some row →
    (∃ row₀, t.pre.db.orders.find? o = some row₀) ∨ o = generateUlid me 0 ∧ ∃ t' ∈ h, Missed t'
  records : ∀ u key r, t.post.record? u key = some r →
    t.pre.record? u key = some r ∨ OwnRecord sha256 me req h t.pre u key r

/-- How a request ends: with a recorded response, or refused if it has seen a record
of another body. -/
structure RequestEnd (result : Except Err CreateOrderResult) (s : Store) : Prop where
  recorded : ∀ response, result = .ok response → ∃ t ∈ h, ∃ u key r, req.Under s u key ∧
    t.post.record? u key = some r ∧ r.responseBody = response
  refused : ∀ t ∈ h, ∀ u key r, t.site = .getKey u key → t.pre.record? u key = some r →
    r.requestHash ≠ Idempotency.hashBody sha256 req.body →
    result = .error (.conflict "Idempotency-Key reused with a different request body")

/-- The contract of a request of which `P` is known. -/
def storeContract (P : CreateRequest → Prop) : Contract storeMachine where
  rely := StoreKept
  guar h site s s' := ∃ req, P req ∧ StoreStep sha256 me req h ⟨site, s, s'⟩

end

variable {cfg : Config} {sha256 : String → String} {me : Nat} {req : CreateRequest}
  {h : List (StepRecord storeMachine)} {s s' : Store}

/-- A read outside the key store. -/
theorem StoreStep.read (site : Site) (s : Store) :
    StoreStep sha256 me req h ⟨.orders site, s, s⟩ :=
  ⟨.refl s, fun _ _ hsite => (nomatch hsite), fun _ row hrow => .inl ⟨row, hrow⟩,
    fun _ _ _ hr => .inl hr⟩

/-- A step of `createOrder`, once the lookup has found nothing. -/
theorem StoreStep.order {call : Call} {hin : List (StepRecord machine)} {site : Site} {db : Db}
    (hstep : Step cfg (fun _ _ => True) me call hin site s.db db) (hmiss : ∃ t ∈ h, Missed t) :
    StoreStep sha256 me req h ⟨.orders site, s, { s with db }⟩ := by
  refine ⟨⟨fun sub => hstep.userIdOf sub, fun o row hrow => hstep.order_kept hrow,
    fun _ _ _ hr => hr⟩, fun _ _ hsite => (nomatch hsite), fun o row hrow => ?_, fun _ _ _ hr => .inl hr⟩
  rcases hstep.order_new hrow with hold | ⟨-, ho⟩
  · exact .inl hold
  · exact .inr ⟨ho, hmiss⟩

theorem createKey_ok {row : Time → IdempotencyRecord} {answer : Answer} {x : Unit}
    (hrun : Idempotency.createKey row answer s = .ok (x, s')) :
    s'.db = s.db ∧ s.record? (row s.db.now).userId (row s.db.now).key = none ∧
      s'.idempotencyKeys.rows = row s.db.now :: s.idempotencyKeys.rows := by
  unfold Idempotency.createKey at hrun
  split at hrun
  · cases hrun
  · dsimp only at hrun
    split at hrun
    · rename_i hnone hinsert
      cases hrun
      exact ⟨rfl, hnone, (Table.insert?_eq_some.mp hinsert).2⟩
    · cases hrun

theorem record?_cons {row : IdempotencyRecord} (hrows : s'.idempotencyKeys.rows =
    row :: s.idempotencyKeys.rows) (u : UserId) (key : String) :
    s'.record? u key = if row.userId = u ∧ row.key = key then some row else s.record? u key := by
  rw [Store.record?, hrows]
  by_cases hmatch : row.userId = u ∧ row.key = key
  · rw [if_pos hmatch, List.find?_cons_of_pos (by simpa using hmatch)]
  · rw [if_neg hmatch, List.find?_cons_of_neg (by simpa using hmatch)]
    rfl

/-- The record of a response. -/
theorem StoreStep.save {row : Time → IdempotencyRecord} {answer : Answer} {x : Unit} {u : UserId}
    {key : String} (hu : (row s.db.now).userId = u) (hkey : (row s.db.now).key = key)
    (hown : OwnRecord sha256 me req h s u key (row s.db.now))
    (hrun : Idempotency.createKey row answer s = .ok (x, s')) :
    StoreStep sha256 me req h ⟨.saveKey u key, s, s'⟩ ∧ s'.record? u key = some (row s.db.now) := by
  obtain ⟨hdb, hnone, hrows⟩ := createKey_ok hrun
  have hrecord := record?_cons hrows
  rw [hu, hkey] at hnone
  rw [hu, hkey] at hrecord
  refine ⟨⟨⟨fun sub => by rw [hdb], fun o row' hrow' => ⟨row', by rw [hdb]; exact hrow'⟩, ?_⟩,
    fun _ _ hsite => (nomatch hsite), fun o row' hrow' => .inl ⟨row', by rw [← hdb]; exact hrow'⟩, ?_⟩,
    (hrecord u key).trans (if_pos ⟨rfl, rfl⟩)⟩
  · -- the record is new under its user and key, so it hides no older one
    intro u' key' r hr
    rw [hrecord, if_neg]
    · exact hr
    · rintro ⟨rfl, rfl⟩
      exact absurd (hnone.symm.trans hr) nofun
  · intro u' key' r hr
    have hr' : s'.record? u' key' = some r := hr
    rw [hrecord] at hr'
    by_cases hmatch : u = u' ∧ key = key'
    · rw [if_pos hmatch] at hr'
      obtain ⟨rfl, rfl⟩ := hmatch
      exact .inr (Option.some.inj hr' ▸ hown)
    · rw [if_neg hmatch] at hr'
      exact .inl hr'

/-! ## The request -/

/-- How the steps of `createOrder` appear among the request's: its lookup has found
nothing, and every step of the order is one of the request's. -/
structure AfterMiss (hin : List (StepRecord machine)) (h : List (StepRecord storeMachine)) :
    Prop where
  missed : ∃ t ∈ h, Missed t
  only : ∀ t ∈ h, ∀ u key, t.site = .getKey u key → t.pre.record? u key = none
  steps : ∀ t ∈ hin, ∃ t' ∈ h, t'.pre.db = t.pre ∧ t'.post.db = t.post

/-- A request that ends without having seen a record. -/
theorem AfterMiss.ends {hin : List (StepRecord machine)} (hh : AfterMiss hin h)
    {result : Except Err CreateOrderResult} (hrecorded : ∀ response, result = .ok response →
      ∃ t ∈ h, ∃ u key r, req.Under s u key ∧ t.post.record? u key = some r ∧
        r.responseBody = response) : RequestEnd sha256 req h result s := by
  refine ⟨hrecorded, fun t ht u key r hsite hr => ?_⟩
  rw [hh.only t ht u key hsite] at hr
  cases hr

theorem AfterMiss.fails {hin : List (StepRecord machine)} (hh : AfterMiss hin h) (e : Err) :
    RequestEnd sha256 req h (.error e) s :=
  hh.ends fun _ hr => nomatch hr

theorem AfterMiss.step {hin : List (StepRecord machine)} (hh : AfterMiss hin h)
    {t : StepRecord storeMachine} (hsite : ∀ u key, t.site ≠ .getKey u key) :
    AfterMiss hin (t :: h) := by
  obtain ⟨t₀, ht₀, hmiss⟩ := hh.missed
  refine ⟨⟨t₀, List.mem_cons_of_mem _ ht₀, hmiss⟩, fun t' ht' u key hs => ?_, fun t' ht' => ?_⟩
  · rcases List.mem_cons.mp ht' with rfl | ht'
    · exact absurd hs (hsite u key)
    · exact hh.only t' ht' u key hs
  · obtain ⟨t'', ht'', hpre, hpost⟩ := hh.steps t' ht'
    exact ⟨t'', List.mem_cons_of_mem _ ht'', hpre, hpost⟩

theorem createOrder_within {P : CreateRequest → Prop} (hP : P req) (hmiss : AfterMiss [] h) :
    Sat (storeContract sha256 me P) (fun h r _ => ∃ hin, AfterMiss hin h ∧
        ∀ response, r = .ok response → response.order.id = generateUlid me 0 ∧
          ∃ t ∈ h, Placed (generateUlid me 0) t.pre.db t.post.db)
      ((createOrder cfg me req.supabaseId req.dto).within ordersPart) h s := by
  have hsteps : Sat (stepContract cfg (fun _ _ => True) me (.createOrder req.supabaseId req.dto))
      anyPost (createOrder cfg me req.supabaseId req.dto) [] s.db := createOrder_sat
  refine sat_within (V := AfterMiss) ?_ ?_ ?_ ?_ (hsteps.and createOrder_end) hmiss
  · exact fun _ _ _ => ⟨trivial, trivial⟩
  · intro hin h site s db hh hg
    exact ⟨req, hP, .order hg.1 hh.missed⟩
  · intro hin h site s db hh _
    have hnext := hh.step (t := ⟨.orders site, s, { s with db }⟩) fun _ _ => nofun
    refine ⟨hnext.missed, hnext.only, fun t ht => ?_⟩
    rcases List.mem_cons.mp ht with rfl | ht
    · exact ⟨_, List.mem_cons_self .., rfl, rfl⟩
    · exact hnext.steps t ht
  · rintro hin h r s hh ⟨-, hend⟩
    refine ⟨hin, hh, fun response hr => ?_⟩
    cases r with
    | error e => cases hr
    | ok result =>
      obtain rfl : result = response := Except.ok.inj hr
      obtain ⟨hid, t, ht, hplaced⟩ := hend result rfl
      obtain ⟨t', ht', hpre, hpost⟩ := hh.steps t ht
      exact ⟨hid, t', ht', by rw [hpre, hpost]; exact hplaced⟩

/-- What a request does once its lookup has found nothing. -/
theorem createAndSave_sat {P : CreateRequest → Prop} (hP : P req) {key : String}
    (hkey : truthy req.idempotencyKey = some key) (hmiss : AfterMiss [] h) :
    Sat (storeContract sha256 me P) (fun h r s => RequestEnd sha256 req h r s) (do
      let response ← (createOrder cfg me req.supabaseId req.dto).within ordersPart
      Idempotency.save sha256 me req.supabaseId key req.body 201 response
      pure response) h s := by
  unfold Idempotency.save Idempotency.resolveUserId
  simp only [bind_assoc]
  refine sat_bind ((createOrder_within hP hmiss).post ?_)
  -- the order is placed; a failure from here on loses the record, not the order
  rintro h r s ⟨hin, hh, hplaced⟩
  cases r with
  | error e => exact hh.fails e
  | ok response =>
    obtain ⟨hid, hplaced⟩ := hplaced response rfl
    refine sat_read_bind fun s₁ _ => ⟨⟨req, hP, .read _ s₁⟩, ?_⟩
    have hh₁ := hh.step (t := ⟨.orders .query, s₁, s₁⟩) fun _ _ => nofun
    refine sat_orThrow_bind (fun _ => hh₁.fails _) fun userId huser => ?_
    refine sat_await_bind fun s₂ hkept answer => ⟨fun e _ => ⟨⟨req, hP, ?_⟩, ?_⟩, fun _ s₃ hrun => ?_⟩
    · exact ⟨.refl s₂, fun _ _ hsite => (nomatch hsite), fun _ row hrow => .inl ⟨row, hrow⟩,
        fun _ _ _ hr => .inl hr⟩
    · exact (hh₁.step (t := ⟨.saveKey userId key, s₂, s₂⟩) fun _ _ => nofun).fails e
    · have hunder : req.Under s₂ userId key := ⟨(hkept.users _).trans huser, hkey⟩
      obtain ⟨t, ht, hplaced⟩ := hplaced
      obtain ⟨hstep, hsaved⟩ : StoreStep sha256 me req _ _ ∧ _ := StoreStep.save rfl rfl
        ⟨hunder, rfl, hid, t, List.mem_cons_of_mem _ ht, hplaced⟩ hrun
      have hh₂ := hh₁.step (t := ⟨.saveKey userId key, s₂, s₃⟩) fun _ _ => nofun
      have hafter : req.Under s₃ userId key := ⟨(hstep.kept.users _).trans hunder.1, hkey⟩
      refine ⟨⟨req, hP, hstep⟩, hh₂.ends fun result hr => ?_⟩
      exact ⟨_, List.mem_cons_self .., userId, key, _, hafter, hsaved, Except.ok.inj hr⟩

/-- A request refused before its lookup. -/
theorem RequestEnd.early {e : Err} (hno : ∀ t ∈ h, ∀ u key, t.site ≠ .getKey u key) :
    RequestEnd sha256 req h (.error e) s :=
  ⟨fun _ hr => (nomatch hr), fun t ht u key _ hsite => absurd hsite (hno t ht u key)⟩

theorem create_sat {P : CreateRequest → Prop} (hP : P req) :
    Sat (storeContract sha256 me P) (fun h r s => RequestEnd sha256 req h r s)
      (OrdersController.create cfg sha256 me req) [] s := by
  unfold OrdersController.create Idempotency.get Idempotency.resolveUserId
  simp only [bind_assoc]
  refine sat_orThrow_bind (fun _ => .early (by simp)) fun key hkey => ?_
  refine sat_read_bind fun s₁ _ => ⟨⟨req, hP, .read _ s₁⟩, ?_⟩
  refine sat_orThrow_bind (fun _ => .early (by simp)) fun userId huser => ?_
  refine sat_read_bind fun s₂ hkept => ?_
  have hunder : req.Under s₂ userId key := ⟨(hkept.users _).trans huser, hkey⟩
  refine ⟨⟨req, hP, .refl s₂, fun u k hsite => by cases hsite; exact ⟨hunder, rfl⟩,
    fun _ row hrow => .inl ⟨row, hrow⟩, fun _ _ _ hr => .inl hr⟩, ?_⟩
  -- the steps so far: the session, then the lookup
  have honly : ∀ t ∈ [(⟨.getKey userId key, s₂, s₂⟩ : StepRecord storeMachine),
      ⟨.orders .query, s₁, s₁⟩], ∀ u k, t.site = .getKey u k → u = userId ∧ k = key ∧ t.pre = s₂ := by
    intro t ht u k hsite
    rcases List.mem_pair.mp ht with rfl | rfl
    · cases hsite
      exact ⟨rfl, rfl, rfl⟩
    · cases hsite
  cases hfind : s₂.record? userId key with
  | some existing =>
    dsimp only
    rw [bind_assoc]
    refine sat_throwIf_bind (fun hne => ⟨fun _ hr => ?_, fun _ _ _ _ _ _ _ _ => rfl⟩)
      fun heq => ?_
    · cases hr
    refine sat_pure ⟨fun response hr => ?_, fun t ht u k r hsite hr hne => ?_⟩
    · exact ⟨_, List.mem_cons_self .., userId, key, existing, hunder, hfind, Except.ok.inj hr⟩
    · obtain ⟨rfl, rfl, hpre⟩ := honly t ht u k hsite
      rw [hpre, hfind] at hr
      exact absurd (Option.some.inj hr ▸ hne) heq
  | none =>
    refine createAndSave_sat hP hkey
      ⟨⟨_, List.mem_cons_self .., userId, key, rfl, hfind⟩, ?_, by simp⟩
    intro t ht u k hsite
    obtain ⟨rfl, rfl, hpre⟩ := honly t ht u k hsite
    rw [hpre]
    exact hfind

/-! ## The law -/

instance (t : StepRecord storeMachine) : Decidable (Missed t) :=
  decidable_of_iff ((match t.site with
    | .getKey u key => (t.pre.record? u key).isNone
    | _ => false) = true) (by
    obtain ⟨site, pre, post⟩ := t
    cases site with
    | getKey u key => simp [Missed, Option.isNone_iff_eq_none]
    | orders site => simp [Missed]
    | saveKey u key => simp [Missed])

/-- When a lookup finds nothing, no order has been created yet, and the requests
whose lookups found nothing before are over. -/
def Exclusive (s₀ : Store) (trace : List (Entry storeMachine)) : Prop :=
  ∀ later e earlier, trace = later ++ e :: earlier → Missed e.toStepRecord →
    (∀ o, ¬Placed o s₀.db e.pre.db) ∧
    ∀ e' ∈ earlier, Missed e'.toStepRecord → ∀ l ∈ later, l.thread ≠ e'.thread

/-- The last lookup that found nothing is call `i`'s. -/
def LastMiss (trace : List (Entry storeMachine)) (i : Nat) : Prop :=
  ∃ e, trace.find? (fun e => Missed e.toStepRecord) = some e ∧ e.thread = i

section

variable {s₀ : Store} {actions : List (Pool.Action (ordersController cfg sha256))}

theorem storeKept_event (e : Event) (s : Store) : StoreKept s { s with db := applyEvent e s.db } := by
  cases e with
  | tick ms => exact ⟨fun _ => rfl, fun _ row hrow => ⟨row, hrow⟩, fun _ _ _ hr => hr⟩
  | paymentSucceeds pi => exact ⟨fun _ => rfl, fun _ row hrow => ⟨row, hrow⟩, fun _ _ _ hr => hr⟩

theorem requests_sound (actions : List (Pool.Action (ordersController cfg sha256))) : Pool.Sound
    (fun j => storeContract sha256 j fun req => (poolRun s₀ actions).call? j = some req)
    (fun _ req h r s => RequestEnd sha256 req h r s) (fun _ => True) s₀ (poolRun s₀ actions) := by
  have hc : (poolRun s₀ actions).Steps fun _ _ => True := fun _ _ => trivial
  refine Pool.sound_of trivial (fun _ s _ => StoreKept.refl s) (fun _ => StoreKept.trans) ?_
    (fun _ _ _ _ _ _ _ _ => trivial) ?_ ?_ actions ?_ hc
  · intro j req h r s s' hkept hend
    refine ⟨fun response hr => ?_, hend.refused⟩
    obtain ⟨t, ht, u, key, record, hunder, hrecord, hbody⟩ := hend.recorded response hr
    exact ⟨t, ht, u, key, record, ⟨(hkept.users _).trans hunder.1, hunder.2⟩, hrecord, hbody⟩
  · rintro i j h site s s' - - - ⟨req, -, hstep⟩
    exact hstep.kept
  · exact fun e s _ => ⟨trivial, fun _ => storeKept_event e s⟩
  · intro j req s _ hreq _ _ _
    exact create_sat hreq

/-- What is known of each step of the run. -/
theorem request_step {later earlier : List (Entry storeMachine)} {e : Entry storeMachine}
    (hsplit : (poolRun s₀ actions).trace = later ++ e :: earlier) :
    ∃ req, (poolRun s₀ actions).call? e.thread = some req ∧
      StoreStep sha256 e.thread req (ownSteps e.thread earlier) e.toStepRecord :=
  ((requests_sound actions).guar later e earlier hsplit).2.2

theorem store_chain (s₀ : Store) (actions : List (Pool.Action (ordersController cfg sha256))) :
    Chain StoreKept s₀ (poolRun s₀ actions) := by
  refine Pool.chain StoreKept.refl StoreKept.trans storeKept_event actions fun e he => ?_
  obtain ⟨later, earlier, hsplit⟩ := List.append_of_mem he
  obtain ⟨req, -, hstep⟩ := request_step hsplit
  exact hstep.kept

/-- A step in the list of a call's own steps is an entry of the trace. -/
theorem entry_of_own {j : Nat} {trace : List (Entry storeMachine)} {t : StepRecord storeMachine}
    (ht : t ∈ ownSteps j trace) : ∃ e ∈ trace, e.toStepRecord = t ∧ e.thread = j := by
  obtain ⟨e, he, rfl⟩ := List.mem_map.mp ht
  obtain ⟨he, hj⟩ := List.mem_filter.mp he
  exact ⟨e, he, rfl, by simpa using hj⟩

/-- Under the condition, a call that takes a step after a lookup of its own that
found nothing is the last to have had one. -/
theorem lastMiss_of_own {trace later earlier : List (Entry storeMachine)} {e : Entry storeMachine}
    (hc : Exclusive s₀ trace) (hsplit : trace = later ++ e :: earlier)
    {t : StepRecord storeMachine} (ht : t ∈ ownSteps e.thread earlier) (hmiss : Missed t) :
    LastMiss earlier e.thread := by
  obtain ⟨e', he', rfl, hthread⟩ := entry_of_own ht
  have hfound : (earlier.find? fun e => Missed e.toStepRecord).isSome :=
    List.find?_isSome.mpr ⟨e', he', by simpa using hmiss⟩
  obtain ⟨last, hlast⟩ := Option.isSome_iff_exists.mp hfound
  refine ⟨last, hlast, ?_⟩
  obtain ⟨hmissed, before, after, rfl, hnone⟩ := List.find?_eq_some_iff_append.mp hlast
  rcases List.mem_append.mp he' with he' | he'
  · exact absurd hmiss (by simpa using hnone e' he')
  · rcases List.mem_cons.mp he' with rfl | he'
    · exact hthread
    · -- an earlier miss of the call would make it take no step after the last one
      have hover := (hc (later ++ e :: before) last after (by rw [hsplit]; simp)
        (by simpa using hmissed)).2 e' he' hmiss e (by simp)
      exact absurd hthread.symm hover

/-- **Only the call with the last miss creates an order.** -/
theorem placed_of_lastMiss (hc : Exclusive s₀ (poolRun s₀ actions).trace) {o : OrderId}
    (ho : Placed o s₀.db (poolRun s₀ actions).state.db) :
    ∃ i, LastMiss (poolRun s₀ actions).trace i ∧ o = generateUlid i 0 := by
  let I (st : Store) (trace : List (Entry storeMachine)) : Prop :=
    ∀ o, Placed o s₀.db st.db → ∃ i, LastMiss trace i ∧ o = generateUlid i 0
  have hI : I (poolRun s₀ actions).state (poolRun s₀ actions).trace := by
    refine Pool.history ?_ ?_ actions ?_
    · rintro o ⟨hnone, row, hrow⟩
      rw [hnone] at hrow
      cases hrow
    · intro e st trace hI o ho
      refine hI o ?_
      cases e with
      | tick ms => exact ho
      | paymentSucceeds pi => exact ho
    · intro later e earlier hsplit hI o ho
      obtain ⟨req, -, hstep⟩ := request_step hsplit
      by_cases hmiss : Missed e.toStepRecord
      · -- a lookup creates nothing, and there was nothing before
        obtain ⟨u, key, hsite, -⟩ := id hmiss
        have hsame : e.post = e.pre := (hstep.lookup u key hsite).2
        rw [hsame] at ho
        exact absurd ho ((hc later e earlier hsplit hmiss).1 o)
      · have hskip : ∀ i, LastMiss earlier i → LastMiss (e :: earlier) i := by
          rintro i ⟨last, hlast, hi⟩
          exact ⟨last, by rw [List.find?_cons_of_neg (by simpa using hmiss)]; exact hlast, hi⟩
        obtain ⟨habsent, row, hrow⟩ := ho
        rcases hstep.orders o row hrow with ⟨row₀, hrow₀⟩ | ⟨ho, t, ht, htmiss⟩
        · obtain ⟨i, hlast, ho⟩ := hI o ⟨habsent, row₀, hrow₀⟩
          exact ⟨i, hskip i hlast, ho⟩
        · exact ⟨e.thread, hskip _ (lastMiss_of_own hc hsplit ht htmiss), ho⟩
  exact hI o ho

/-- All requests come from one user, under one key. -/
def SameKey (actions : List (Pool.Action (ordersController cfg sha256))) (sub key : String) : Prop :=
  ∀ req, Pool.Action.arrive req ∈ actions → req.supabaseId = sub ∧ req.idempotencyKey = some key

section

variable {sub key : String} {i j : Nat} {u : UserId} {k : String}

/-- The user and the key of a request, at whatever time it looks. -/
theorem SameKey.under (hsame : SameKey actions sub key) {req : CreateRequest}
    (hi : (poolRun s₀ actions).call? i = some req) {st : Store}
    (hkept : StoreKept s₀ st) (hunder : req.Under st u k) :
    s₀.db.userIdOf sub = some u ∧ truthy (some key) = some k := by
  obtain ⟨hsub, hkey⟩ := hsame req (Pool.arrive_of_call? hi)
  obtain ⟨huser, htruthy⟩ := hunder
  rw [hkept.users, hsub] at huser
  rw [hkey] at htruthy
  exact ⟨huser, htruthy⟩

/-- The step that has placed an order: it is its call's, whose lookup found nothing. -/
theorem placed_by {o : OrderId} (ho : Placed o s₀.db (poolRun s₀ actions).state.db) :
    ∃ e ∈ (poolRun s₀ actions).trace, Placed o e.pre.db e.post.db ∧ o = generateUlid e.thread 0 ∧
      ∃ e' ∈ (poolRun s₀ actions).trace, e'.thread = e.thread ∧ Missed e'.toStepRecord := by
  let I (st : Store) (trace : List (Entry storeMachine)) : Prop :=
    Placed o s₀.db st.db → ∃ e ∈ trace, Placed o e.pre.db e.post.db
  have hI : I (poolRun s₀ actions).state (poolRun s₀ actions).trace := by
    -- the trace has a step that brings the order, for at the start it was not there
    refine Pool.history ?_ ?_ actions ?_
    · rintro ⟨hnone, row, hrow⟩
      rw [hnone] at hrow
      cases hrow
    · intro e st trace hI ho
      refine hI ?_
      cases e with
      | tick ms => exact ho
      | paymentSucceeds pi => exact ho
    · rintro later e earlier - hI ⟨habsent, hpresent⟩
      by_cases hnone : e.pre.db.orders.find? o = none
      · exact ⟨e, List.mem_cons_self .., hnone, hpresent⟩
      · obtain ⟨e', he', hplaced⟩ := hI ⟨habsent, Option.ne_none_iff_exists'.mp hnone⟩
        exact ⟨e', List.mem_cons_of_mem _ he', hplaced⟩
  obtain ⟨e, he, hnone, row, hrow⟩ := hI ho
  obtain ⟨later, earlier, hsplit⟩ := List.append_of_mem he
  obtain ⟨req, -, hstep⟩ := request_step hsplit
  rcases hstep.orders o row hrow with ⟨row₀, hrow₀⟩ | ⟨ho, t, ht, hmiss⟩
  · rw [hnone] at hrow₀
    cases hrow₀
  · obtain ⟨e', he', rfl, hthread⟩ := entry_of_own ht
    exact ⟨e, he, ⟨hnone, row, hrow⟩, ho, e', by rw [hsplit]; simp [he'], hthread, hmiss⟩

/-- An order is only placed when nothing was recorded at the start. -/
theorem unrecorded_of_placed (hsame : SameKey actions sub key) {o : OrderId}
    (ho : Placed o s₀.db (poolRun s₀ actions).state.db) (hu : s₀.db.userIdOf sub = some u)
    (hk : truthy (some key) = some k) : s₀.record? u k = none := by
  obtain ⟨-, -, -, -, e, he, -, u', k', hsite, hmiss⟩ := placed_by ho
  have hkept := ((store_chain s₀ actions).last e he).1
  obtain ⟨later, earlier, hsplit⟩ := List.append_of_mem he
  obtain ⟨req, hreq, hstep⟩ := request_step hsplit
  obtain ⟨hu', hk'⟩ := hsame.under hreq hkept (hstep.lookup u' k' hsite).1
  rw [hu, Option.some.injEq] at hu'
  rw [hk, Option.some.injEq] at hk'
  subst hu' hk'
  cases hrecord : s₀.record? u k with
  | none => rfl
  | some r =>
    rw [hkept.records u k r hrecord] at hmiss
    cases hmiss

/-- Where a record comes from: the start, or the call that has placed its order. -/
theorem record_origin (actions : List (Pool.Action (ordersController cfg sha256)))
    {r : IdempotencyRecord} (hr : (poolRun s₀ actions).state.record? u k = some r) :
    s₀.record? u k = some r ∨ ∃ i req, (poolRun s₀ actions).call? i = some req ∧
      r.requestHash = Idempotency.hashBody sha256 req.body ∧
      r.responseBody.order.id = generateUlid i 0 ∧
      Placed (generateUlid i 0) s₀.db (poolRun s₀ actions).state.db := by
  let I (st : Store) (_ : List (Entry storeMachine)) : Prop :=
    ∀ r, st.record? u k = some r → s₀.record? u k = some r ∨
      ∃ i req, (poolRun s₀ actions).call? i = some req ∧
        r.requestHash = Idempotency.hashBody sha256 req.body ∧
        r.responseBody.order.id = generateUlid i 0 ∧
        Placed (generateUlid i 0) s₀.db (poolRun s₀ actions).state.db
  have hI : I (poolRun s₀ actions).state (poolRun s₀ actions).trace := by
    refine Pool.history (fun r hr => .inl hr) (fun e st trace hI r hr => hI r hr) actions ?_
    intro later e earlier hsplit hI r hr
    obtain ⟨req, hreq, hstep⟩ := request_step hsplit
    rcases hstep.records u k r hr with hold | hown
    · exact hI r hold
    · obtain ⟨t, ht, hnone, hpresent⟩ := hown.placed
      obtain ⟨e', he', rfl, -⟩ := entry_of_own ht
      have hchain := (store_chain s₀ actions).last e' (by rw [hsplit]; simp [he'])
      refine .inr ⟨e.thread, req, hreq, hown.hash, hown.order, ?_, ?_⟩
      · -- what is absent at a step was absent at the start
        by_contra hsome
        obtain ⟨row, hrow⟩ := Option.ne_none_iff_exists'.mp hsome
        obtain ⟨row', hrow'⟩ := hchain.1.orders _ row hrow
        rw [hnone] at hrow'
        cases hrow'
      · obtain ⟨row, hrow⟩ := hpresent
        exact hchain.2.orders _ row hrow
  exact hI r hr

/-- The record that a successful request has returned. -/
theorem record_of_result (hsame : SameKey actions sub key) {response : CreateOrderResult}
    (hj : (poolRun s₀ actions).result? j = some (.ok response)) :
    ∃ u k r, s₀.db.userIdOf sub = some u ∧ truthy (some key) = some k ∧
      (poolRun s₀ actions).state.record? u k = some r ∧ r.responseBody = response := by
  obtain ⟨req, hreq, hend⟩ := (requests_sound actions).result hj
  obtain ⟨t, ht, u, k, r, hunder, hr, hbody⟩ := hend.recorded response rfl
  obtain ⟨e, he, rfl, -⟩ := entry_of_own ht
  have hchain := store_chain s₀ actions
  obtain ⟨hu, hk⟩ := hsame.under hreq hchain.first hunder
  exact ⟨u, k, r, hu, hk, (hchain.last e he).2.records u k r hr, hbody⟩

/-- All successful requests return the same order. -/
theorem same_response (hsame : SameKey actions sub key) {response response' : CreateOrderResult}
    (hi : (poolRun s₀ actions).result? i = some (.ok response))
    (hj : (poolRun s₀ actions).result? j = some (.ok response')) : response = response' := by
  obtain ⟨u, k, r, hu, hk, hr, rfl⟩ := record_of_result hsame hi
  obtain ⟨u', k', r', hu', hk', hr', rfl⟩ := record_of_result hsame hj
  rw [hu, Option.some.injEq] at hu'
  rw [hk, Option.some.injEq] at hk'
  subst hu' hk'
  rw [hr] at hr'
  rw [Option.some.inj hr']

/-- At most one order is created. -/
theorem placed_unique (hc : Exclusive s₀ (poolRun s₀ actions).trace) {o o' : OrderId}
    (ho : Placed o s₀.db (poolRun s₀ actions).state.db)
    (ho' : Placed o' s₀.db (poolRun s₀ actions).state.db) : o = o' := by
  obtain ⟨i, ⟨e, he, rfl⟩, rfl⟩ := placed_of_lastMiss hc ho
  obtain ⟨j, ⟨e', he', rfl⟩, rfl⟩ := placed_of_lastMiss hc ho'
  rw [he] at he'
  rw [Option.some.inj he']

/-- The response is the order that was created. -/
theorem response_order (hsame : SameKey actions sub key)
    (hc : Exclusive s₀ (poolRun s₀ actions).trace) {response : CreateOrderResult} {o : OrderId}
    (hj : (poolRun s₀ actions).result? j = some (.ok response))
    (ho : Placed o s₀.db (poolRun s₀ actions).state.db) : response.order.id = o := by
  obtain ⟨u, k, r, hu, hk, hr, rfl⟩ := record_of_result hsame hj
  rcases record_origin actions hr with hold | ⟨i, req, -, -, hid, hplaced⟩
  · rw [unrecorded_of_placed hsame ho hu hk] at hold
    cases hold
  · rw [hid]
    exact placed_unique hc hplaced ho

/-- A lookup that comes after the one that has led to the order finds its record. -/
theorem found_after (hsame : SameKey actions sub key)
    (hc : Exclusive s₀ (poolRun s₀ actions).trace) {later earlier : List (Entry storeMachine)}
    {e : Entry storeMachine} (hsplit : (poolRun s₀ actions).trace = later ++ e :: earlier)
    (hsite : e.site = .getKey u k) {req : CreateRequest}
    (hi : (poolRun s₀ actions).call? i = some req)
    (hplaced : Placed (generateUlid i 0) s₀.db (poolRun s₀ actions).state.db)
    (hmissed : ∃ e' ∈ earlier, e'.thread = i ∧ Missed e'.toStepRecord) :
    ∃ r, e.pre.record? u k = some r ∧ r.requestHash = Idempotency.hashBody sha256 req.body := by
  obtain ⟨e', he', hthread, hmiss⟩ := hmissed
  have hchain := store_chain s₀ actions
  have hmem : e ∈ (poolRun s₀ actions).trace := by
    rw [hsplit]
    simp
  obtain ⟨reqₑ, hreqₑ, hstep⟩ := request_step hsplit
  obtain ⟨hunder, hsameState⟩ := hstep.lookup u k hsite
  cases hrecord : e.pre.record? u k with
  | none =>
    exfalso
    obtain ⟨hno, hover⟩ := hc later e earlier hsplit ⟨u, k, hsite, hrecord⟩
    -- where the order was placed: not after the lookup, as the call is over by then
    obtain ⟨e'', he'', ⟨hnone, row, hrow⟩, hid, -⟩ := placed_by hplaced
    rw [hsplit, List.mem_append, List.mem_cons] at he''
    rcases he'' with hlater | rfl | hearlier
    · have hi' : i = e''.thread := congrArg Ulid.call hid
      exact hover e' he' hmiss e'' hlater (hi'.symm.trans hthread.symm)
    · rw [show e''.post = e''.pre from hsameState, hnone] at hrow
      cases hrow
    · have hbefore := hchain.between later e earlier hsplit e'' hearlier
      exact hno _ ⟨hplaced.1, hbefore.orders _ row hrow⟩
  | some r =>
    refine ⟨r, rfl, ?_⟩
    have hkept : StoreKept e.pre (poolRun s₀ actions).state := by
      have hpost := (hchain.last e hmem).2
      rwa [show e.post = e.pre from hsameState] at hpost
    rcases record_origin actions (hkept.records u k r hrecord) with hold | ⟨i', req', hi', hhash, -, hplaced'⟩
    · obtain ⟨hu, hk⟩ := hsame.under hreqₑ (hchain.last e hmem).1 hunder
      rw [unrecorded_of_placed hsame hplaced hu hk] at hold
      cases hold
    · obtain rfl : i' = i := congrArg Ulid.call (placed_unique hc hplaced' hplaced)
      rw [hhash, Option.some.inj (hi.symm.trans hi')]

/-- A request that has looked up a record of another body is refused. -/
theorem refused_of_record {req : CreateRequest} (hj : (poolRun s₀ actions).call? j = some req)
    {e : Entry storeMachine} (he : e ∈ (poolRun s₀ actions).trace) (hthread : e.thread = j)
    (hsite : e.site = .getKey u k) {r : IdempotencyRecord} (hr : e.pre.record? u k = some r)
    (hhash : r.requestHash ≠ Idempotency.hashBody sha256 req.body)
    {result : Except Err CreateOrderResult} (hresult : (poolRun s₀ actions).result? j = some result) :
    result = .error (.conflict "Idempotency-Key reused with a different request body") := by
  obtain ⟨req', hj', hend⟩ := (requests_sound actions).result hresult
  obtain rfl : req = req' := Option.some.inj (hj.symm.trans hj')
  refine hend.refused e.toStepRecord ?_ u k r hsite hr hhash
  exact List.mem_map.mpr ⟨e, List.mem_filter.mpr ⟨he, by simpa using hthread⟩, rfl⟩

end

end

/-- The law of the key: one order, which every successful request returns, and a
request with another body than the one the key stands for is refused. -/
structure OneOrder (s₀ : Store) (p : Pool (ordersController cfg sha256)) : Prop where
  unique : ∀ o o', Placed o s₀.db p.state.db → Placed o' s₀.db p.state.db → o = o'
  returned : ∀ j response, p.result? j = some (.ok response) →
    (∀ o, Placed o s₀.db p.state.db → response.order.id = o) ∧
    ∀ j' response', p.result? j' = some (.ok response') → response = response'
  /-- the key stands for a body by a record, or by the lookup that has led to the order -/
  refused : ∀ j req later e earlier u k, p.call? j = some req → p.trace = later ++ e :: earlier →
    e.thread = j → e.site = .getKey u k →
    ∀ hash, hash ≠ Idempotency.hashBody sha256 req.body →
    ((∃ r, s₀.record? u k = some r ∧ r.requestHash = hash) ∨
      ∃ i req', p.call? i = some req' ∧ Idempotency.hashBody sha256 req'.body = hash ∧
        Placed (generateUlid i 0) s₀.db p.state.db ∧
        ∃ e' ∈ earlier, e'.thread = i ∧ Missed e'.toStepRecord) →
    ¬Placed (generateUlid j 0) s₀.db p.state.db ∧
    ∀ result, p.result? j = some result →
      result = .error (.conflict "Idempotency-Key reused with a different request body")

/-- **One order for a key.** It is so when a lookup that finds nothing always comes
before any order and after the other requests of that kind are over. -/
theorem one_order_for_a_key (cfg : Config) (sha256 : String → String) (s₀ : Store)
    (sub key : String) (actions : List (Pool.Action (ordersController cfg sha256)))
    (hsame : SameKey actions sub key) (hc : Exclusive s₀ (poolRun s₀ actions).trace) :
    OneOrder s₀ (poolRun s₀ actions) := by
  refine ⟨fun o o' => placed_unique hc, fun j response hj => ?_, ?_⟩
  · exact ⟨fun o => response_order hsame hc hj, fun j' response' => same_response hsame hj⟩
  · intro j req later e earlier u k hj hsplit hthread hsite hash hne htaken
    have hmem : e ∈ (poolRun s₀ actions).trace := by
      rw [hsplit]
      simp
    have hkept := ((store_chain s₀ actions).last e hmem).1
    obtain ⟨req', hreq', hstep⟩ := request_step hsplit
    obtain ⟨hu, hk⟩ := hsame.under hreq' hkept (hstep.lookup u k hsite).1
    rcases htaken with ⟨r, hr, rfl⟩ | ⟨i, reqᵢ, hi, rfl, hplaced, hmissed⟩
    · refine ⟨fun hplaced => ?_, fun result hresult => ?_⟩
      · rw [unrecorded_of_placed hsame hplaced hu hk] at hr
        cases hr
      · exact refused_of_record hj hmem hthread hsite (hkept.records u k r hr) hne hresult
    · obtain ⟨r, hr, hhash⟩ := found_after hsame hc hsplit hsite hi hplaced hmissed
      refine ⟨fun hplaced' => ?_, fun result hresult => ?_⟩
      · obtain rfl : j = i := congrArg Ulid.call (placed_unique hc hplaced' hplaced)
        exact hne (by rw [Option.some.inj (hi.symm.trans hj)])
      · rw [← hhash] at hne
        exact refused_of_record hj hmem hthread hsite hr hne hresult

/-- One lookup that finds nothing, before the first order. -/
theorem Exclusive.of_once {s₀ : Store} {trace : List (Entry storeMachine)}
    (hone : trace.countP (fun e => Missed e.toStepRecord) ≤ 1)
    (hempty : ∀ e ∈ trace, Missed e.toStepRecord → e.pre.db.orders.rows.isEmpty = true) :
    Exclusive s₀ trace := by
  intro later e earlier hsplit hmiss
  subst hsplit
  constructor
  · rintro o ⟨-, row, hrow⟩
    have hnil := List.isEmpty_iff.mp (hempty e (by simp) hmiss)
    rw [Table.find?, hnil] at hrow
    cases hrow
  · intro e' he' hmiss'
    have hearlier : 0 < earlier.countP (fun e => Missed e.toStepRecord) :=
      List.countP_pos_iff.mpr ⟨e', he', by simpa using hmiss'⟩
    have hself : (e :: earlier).countP (fun e => Missed e.toStepRecord) =
        earlier.countP (fun e => Missed e.toStepRecord) + 1 :=
      List.countP_cons_of_pos (by simpa using hmiss)
    rw [List.countP_append, hself] at hone
    omega

/-! ## Requests in the small town -/

/-- The small town before any request. -/
def emptyStore : Store := ⟨smallTown, .empty⟩

/-- The buyer's request under the key "k". -/
def smallTownRequest (body : String) : CreateRequest :=
  ⟨"buyer", some "k", smallTownOrder, body⟩

/-- Requests with these bodies arrive. -/
def arrivals (bodies : List String) : List (Pool.Action (ordersController smallTownConfig id)) :=
  bodies.map fun body => .arrive (smallTownRequest body)

/-- Steps of call `j`, each with `token` as its random text. -/
def requestSteps (j n : Nat) (token : String) : List (Pool.Action (ordersController smallTownConfig id)) :=
  List.replicate n (.run j ⟨true, token, ""⟩)

/-- Three requests one after another, the last one with another body. -/
def requestsInTurn : List (Pool.Action (ordersController smallTownConfig id)) :=
  arrivals ["one", "one", "two"] ++
    (requestSteps 0 20 "token" ++ requestSteps 1 20 "token" ++ requestSteps 2 20 "token")

/-- Two requests that both look the key up before they go on. -/
def doubleClick : List (Pool.Action (ordersController smallTownConfig id)) :=
  arrivals ["one", "one"] ++ (requestSteps 0 2 "token" ++ requestSteps 1 2 "token" ++
    requestSteps 0 20 "token" ++ requestSteps 1 20 "nekot")

theorem arrivals_sameKey (bodies : List String)
    {steps : List (Pool.Action (ordersController smallTownConfig id))}
    (hsteps : ∀ req, Pool.Action.arrive req ∉ steps) : SameKey (arrivals bodies ++ steps) "buyer" "k" := by
  intro req hreq
  rcases List.mem_append.mp hreq with hreq | hreq
  · obtain ⟨body, -, hbody⟩ := List.mem_map.mp hreq
    obtain rfl := Pool.Action.arrive.inj hbody
    exact ⟨rfl, rfl⟩
  · exact absurd hreq (hsteps req)

instance (o : OrderId) (before after : Db) : Decidable (Placed o before after) :=
  decidable_of_iff ((before.orders.find? o).isNone ∧ (after.orders.find? o).isSome) (by
    rw [Placed, Option.isNone_iff_eq_none, Option.isSome_iff_exists])

/-- The repeated request gets the order of the first one. -/
theorem repeated_request_answered :
    Placed ⟨0, 0⟩ smallTown (poolRun emptyStore requestsInTurn).state.db ∧
    ∃ response, (poolRun emptyStore requestsInTurn).result? 1 = some (.ok response) ∧
      response.order.id = ⟨0, 0⟩ := by
  have hplaced : Placed ⟨0, 0⟩ smallTown (poolRun emptyStore requestsInTurn).state.db := by
    decide +kernel
  have hdone : (((poolRun emptyStore requestsInTurn).result? 1).bind Except.toOption).isSome := by
    decide +kernel
  obtain ⟨response, hresponse⟩ := Option.isSome_iff_exists.mp hdone
  obtain ⟨result, hresult, hok⟩ := Option.bind_eq_some_iff.mp hresponse
  have hlaw := one_order_for_a_key smallTownConfig id emptyStore "buyer" "k" requestsInTurn
    (arrivals_sameKey _ (by simp [requestSteps])) (.of_once (by decide +kernel) (by decide +kernel))
  refine ⟨hplaced, response, ?_⟩
  cases result with
  | error e => cases hok
  | ok response' =>
    obtain rfl : response' = response := Option.some.inj hok
    exact ⟨hresult, (hlaw.returned 1 response' hresult).1 ⟨0, 0⟩ hplaced⟩

/-- **Two orders for a key.** Both requests look the key up before either of them
records its response. -/
theorem two_orders_for_a_key :
    ¬∀ (cfg : Config) (sha256 : String → String) (s₀ : Store) (sub key : String)
      (actions : List (Pool.Action (ordersController cfg sha256))), SameKey actions sub key →
        OneOrder s₀ (poolRun s₀ actions) := by
  intro hclaim
  have hlaw := hclaim smallTownConfig id emptyStore "buyer" "k" doubleClick
    (arrivals_sameKey _ (by simp [requestSteps]))
  have hone := hlaw.unique ⟨0, 0⟩ ⟨1, 0⟩ (by decide +kernel) (by decide +kernel)
  exact absurd hone (by decide)

end IncaCook
