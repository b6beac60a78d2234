import IncaCook.Properties.WatchStarts

/-!
# The parties to an order

An order is its buyer's and its seller's, and its driver's from the claim on. Every call of a
user carries a login, and the handlers look up who that is and whether the order concerns them.
They look first and write later, other calls run in between, and nothing repeats the check at
the write.

Main results:

* `order_written_by_party`: who rewrites an order, in any interleaving, and into which status;
* `delivery_written_by_party`: the same of deliveries.
-/

namespace IncaCook

open Prog Orders Deliveries Wallets Webhooks

/-! ## Who is who -/

/-- The login behind a call of a user. Timers, webhooks and the admins' decisions have none. -/
def Call.login : Call → Option String
  | .createOrder sub _ | .confirmPaymentForBuyer sub _ | .startPreparing sub _ | .markReady sub _
  | .getSellerPickupQr sub _ | .getBuyerDeliveryQr sub _ | .decideNoDriver sub _ _
  | .sellerCannotProvide sub _ _ | .confirmOrderPickup sub _ | .cancelAsSeller sub _ _
  | .createDispute sub _ _ | .claim sub _ | .arriveAtPickup sub _ | .confirmPickup sub _ _
  | .confirmDelivery sub _ _ | .confirmAbsentDropoff sub _ _ | .reportSellerUnavailable sub _ _
  | .requestWithdrawal sub => some sub
  | _ => none

inductive Party where
  | buyer | seller | driver
  deriving DecidableEq, Repr

/-- What a user is to an order. -/
def Db.isParty (s : Db) (u : UserId) (o : OrderId) : Party → Prop
  | .buyer => ∃ row, s.orders.find? o = some row ∧ row.buyerId = u
  | .seller => ∃ row, s.orders.find? o = some row ∧ row.sellerId = u
  | .driver => ∃ d row, s.deliveries.find? d = some row ∧ row.orderId = o ∧ row.driverId = some u

/-- The statuses that each party can bring an order to. -/
def Party.mayMoveTo : Party → List OrderStatus
  | .buyer => [.confirmed, .ready, .delivered, .cancelled, .refunded]
  | .seller => [.preparing, .ready, .delivered, .cancelled]
  | .driver => [.inDelivery, .delivered, .cancelled]

/-- What a user may do to a delivery: claim it when it has no driver, drive it, and as the buyer or
the seller get a token for it or cancel it. -/
inductive DeliveryWrite (s : Db) (u : UserId) (row row' : Delivery) : Prop where
  | claimed (hfree : row.driverId = none) (hdriver : row'.driverId = some u)
      (hstatus : row'.status = .assigned)
  | driven (hdriver : row.driverId = some u)
      (hstatus : row'.status ∈ [DeliveryStatus.atPickup, .pickedUp, .delivered, .cancelled])
  | parties {party : Party} (hparty : s.isParty u row.orderId party) (hnot : party ≠ .driver)
      (hstatus : row'.status = row.status ∨ row'.status = .cancelled)

/-- Users keep their logins, and rows their parties. -/
structure Db.KeepsParties (s s' : Db) : Prop where
  logins : ∀ sub, s'.userIdOf sub = s.userIdOf sub
  trails : s.Trails s'

theorem Db.KeepsParties.refl (s : Db) : s.KeepsParties s := ⟨fun _ => rfl, .refl s⟩

theorem Db.KeepsParties.trans (a b c : Db) (hab : a.KeepsParties b) (hbc : b.KeepsParties c) :
    a.KeepsParties c :=
  ⟨fun sub => (hbc.logins sub).trans (hab.logins sub), hab.trails.trans hbc.trails⟩

theorem Order.Trails.buyerId {o o' : Order} (h : o.Trails o') : o'.buyerId = o.buyerId := by
  have hterms := congrArg Order.buyerId h.terms
  exact hterms

theorem Order.Trails.sellerId {o o' : Order} (h : o.Trails o') : o'.sellerId = o.sellerId := by
  have hterms := congrArg Order.sellerId h.terms
  exact hterms

/-- A driver is not replaced. -/
theorem Delivery.Trails.driverId {d d' : Delivery} {u : UserId} (h : d.Trails d')
    (hdriver : d.driverId = some u) : d'.driverId = some u := by
  rcases h.driver with hnone | hsame
  · rw [hnone] at hdriver
    cases hdriver
  · rw [hsame, hdriver]

theorem Db.isParty.later {s s' : Db} {u : UserId} {o : OrderId} {party : Party}
    (h : s.isParty u o party) (htrails : s.Trails s') : s'.isParty u o party := by
  cases party with
  | buyer =>
    obtain ⟨row, hrow, hbuyer⟩ := h
    obtain ⟨row', hrow', ht⟩ := htrails.orders.find? hrow
    exact ⟨row', hrow', ht.buyerId.trans hbuyer⟩
  | seller =>
    obtain ⟨row, hrow, hseller⟩ := h
    obtain ⟨row', hrow', ht⟩ := htrails.orders.find? hrow
    exact ⟨row', hrow', ht.sellerId.trans hseller⟩
  | driver =>
    obtain ⟨d, row, hrow, hof, hdriver⟩ := h
    obtain ⟨row', hrow', ht⟩ := htrails.deliveries.find? hrow
    exact ⟨d, row', hrow', ht.orderId.trans hof, ht.driverId hdriver⟩

/-! ## Which statements rewrite which rows -/

/-- The order that a statement rewrites. -/
def Site.order? : Site → Option OrderId
  | .savePaymentIntent o | .saveRefund o => some o
  | .placeOrder _ => none
  | site => site.sets.map Prod.fst

/-- The statements that touch no order and no delivery. -/
def Site.quiet : Site → Bool
  | .query | .stripeQuery | .createCustomer _ | .saveCustomer _ | .createAddress _ | .createPaymentIntent _
  | .chargeback _ | .reverseDriverEarning _ | .createRefund _ | .reversePending _ | .creditCompleted _
  | .compensateDriver _ | .creditSeller _ | .driverDebt _ | .createDispute _ | .updateDispute _
  | .approveDriverKyc _ | .releaseDue | .reverseDue | .readAvailable _ | .createTransfer .. | .settle ..
  | .createStrike _ | .suspendUser _ => true
  | _ => false

/-- The statements that a party to order `o` may make. -/
def Party.may (o : OrderId) : Party → Site → Bool
  | _, .saveRefund o' => o' = o
  | .buyer, .savePaymentIntent o' | .buyer, .confirmPayment o' | .buyer, .switchToPickup o'
  | .buyer, .cancelNoDriver o' _ | .buyer, .refundDispute o' | .buyer, .pickedUpByBuyer o' => o' = o
  | .seller, .transitionAsSeller o' target => o' = o && target = .preparing
  | .seller, .markReady o' _ | .seller, .sellerCannotProvide o' _ | .seller, .cancelAsSeller o'
  | .seller, .pickedUpByBuyer o' => o' = o
  | .driver, .cancelSellerUnavailable o' _ | .driver, .deliveredByDriver o' => o' = o
  | _, _ => false

/-- The statements that the driver of delivery `d` may make about it, and the status it gets. -/
def Site.drives : Site → Option (DeliveryId × DeliveryStatus)
  | .transition d .atPickup => some (d, .atPickup)
  | .confirmPickup d _ => some (d, .pickedUp)
  | .confirmDelivery d _ | .confirmAbsentDropoff d _ => some (d, .delivered)
  | .reportSellerUnavailable d _ => some (d, .cancelled)
  | _ => none

section

variable {cfg : Config} {me : Nat} {call : Call} {h : List (StepRecord machine)} {site : Site}
  {s s' : Db} {o : OrderId} {d : DeliveryId}

theorem Party.order?_of_may {party : Party} (hmay : party.may o site = true) : site.order? = some o := by
  cases party <;> cases site <;> simp_all [Party.may, Site.order?, Site.sets]

theorem Party.mayMoveTo_of_may {party : Party} {o' : OrderId} {st : OrderStatus}
    (hmay : party.may o site = true) (hsets : site.sets = some (o', st)) : st ∈ party.mayMoveTo := by
  cases party <;> cases site <;> simp_all [Party.may, Site.sets, Party.mayMoveTo]

/-- A row of an updated table that is not the row before is the updated one. -/
theorem target_of_update {o₁ : OrderId} {f : Order → Order} {hf : ∀ r, (f r).id = r.id} {row' : Order}
    (hrow' : (s.orders.update o₁ f hf).find? o = some row') (hmoved : s.orders.find? o ≠ some row') :
    o₁ = o := by
  obtain ⟨row, hrow, ⟨rfl, -⟩ | ⟨-, rfl⟩⟩ := Table.find?_update_some hrow'
  · rfl
  · exact absurd hrow hmoved

/-- Whoever changes the row of an order: it is placed, it is the order that the statement is about,
or a pickup of one of its deliveries is confirmed. -/
theorem Step.order_rewritten (hstep : Step cfg Db.Trails me call h site s s') {row' : Order}
    (hrow' : s'.orders.find? o = some row') (hmoved : s.orders.find? o ≠ some row') :
    (site = .placeOrder o ∧ s.orders.find? o = none) ∨
      (∃ row, s.orders.find? o = some row) ∧ (site.order? = some o ∨
        ∃ d driver r, site = .confirmPickup d driver ∧ row'.status = .inDelivery ∧
          s.deliveries.find? d = some r ∧ r.orderId = o) := by
  have hkept : ∀ {o₁ : OrderId} {f : Order → Order} {hf : ∀ r, (f r).id = r.id},
      (s.orders.update o₁ f hf).find? o = some row' →
      (∃ row, s.orders.find? o = some row) ∧ o₁ = o := by
    intro o₁ f hf hrow'
    obtain ⟨row, hrow, -⟩ := Table.find?_update_some hrow'
    exact ⟨⟨row, hrow⟩, target_of_update hrow' hmoved⟩
  cases hstep with
  | aside haside => exact absurd (haside.orders ▸ hrow') hmoved
  | placeOrder args hid hstock hnew =>
    rw [Table.find?_insert hnew] at hrow'
    split at hrow'
    · rename_i ho
      have ho' : o = args.orderId := ho
      exact .inl ⟨by rw [ho'], ho' ▸ (Table.insert?_eq_some.mp hnew).1⟩
    · exact absurd hrow' hmoved
  | confirmPickup d driver token hcall huser hR hsaw hdriver hnot hstatus htoken =>
    obtain ⟨r, hr, htrails⟩ := hR.deliveries.find? hsaw
    dsimp only at hrow'
    obtain ⟨row, hrow, ⟨rfl, rfl⟩ | ⟨-, rfl⟩⟩ := Table.find?_update_some hrow'
    · exact .inr ⟨⟨row, hrow⟩, .inr ⟨d, driver, r, rfl, rfl, hr, htrails.orderId⟩⟩
    · exact absurd hrow hmoved
  | savePaymentIntent | saveRefund | confirmPayment | paymentSucceeded | paymentFailed | startPreparing
  | markReady | noDriverTimeout | switchToPickup | cancelNoDriver | cancelSellerUnavailable
  | sellerCannotProvide | cancelAsSeller | driverDisappeared | refundDispute | pickedUpByBuyer
  | deliveredByDriver =>
    dsimp only at hrow'
    obtain ⟨hrow, rfl⟩ := hkept hrow'
    exact .inr ⟨hrow, .inl rfl⟩
  | _ => exact absurd hrow' hmoved

/-! ## Deliveries -/

/-- How a statement rewrites the row of delivery `d`. -/
inductive DeliveryRewrite (d : DeliveryId) (row row' : Delivery) : Site → Prop where
  | pickupToken (hstatus : row'.status = row.status) : DeliveryRewrite d row row' (.mintPickupToken d)
  | deliveryToken (hstatus : row'.status = row.status) : DeliveryRewrite d row row' (.mintDeliveryToken d)
  | switched (hstatus : row'.status = .cancelled) : DeliveryRewrite d row row' (.switchToPickup row.orderId)
  | unclaimed {restores : Bool} (hstatus : row'.status = .cancelled) :
      DeliveryRewrite d row row' (.cancelNoDriver row.orderId restores)
  | unprovided {restores : Bool} (hstatus : row'.status = .cancelled) :
      DeliveryRewrite d row row' (.sellerCannotProvide row.orderId restores)
  | disappeared {o : OrderId} : DeliveryRewrite d row row' (.driverDisappeared d o)
  | claimed {driver : UserId} (hfree : row.driverId = none) (hdriver : row'.driverId = some driver)
      (hstatus : row'.status = .assigned) : DeliveryRewrite d row row' (.claim d driver)
  | driven {site : Site} (hsite : site.drives = some (d, row'.status)) : DeliveryRewrite d row row' site

/-- Whoever changes the row of a delivery: it is created, or rewritten in one of these ways. -/
theorem Step.delivery_rewritten (hstep : Step cfg Db.Trails me call h site s s') {row' : Delivery}
    (hrow' : s'.deliveries.find? d = some row') (hmoved : s.deliveries.find? d ≠ some row') :
    (s.deliveries.find? d = none ∧ ∃ choice, site = .markReady row'.orderId choice) ∨
      ∃ row, s.deliveries.find? d = some row ∧ DeliveryRewrite d row row' site := by
  have hupdate : ∀ {d₁ : DeliveryId} {f : Delivery → Delivery} {hf : ∀ r, (f r).id = r.id},
      (s.deliveries.update d₁ f hf).find? d = some row' →
      ∃ row, s.deliveries.find? d = some row ∧ d₁ = d ∧ row' = f row := by
    intro d₁ f hf hrow'
    obtain ⟨row, hrow, ⟨rfl, rfl⟩ | ⟨-, rfl⟩⟩ := Table.find?_update_some hrow'
    · exact ⟨row, hrow, rfl, rfl⟩
    · exact absurd hrow hmoved
  -- the delivery of an order, found by the call and rewritten later
  have hlatest : ∀ {s₀ : Db} {o : OrderId} {r : Delivery} {f : Delivery → Delivery}
      {hf : ∀ r, (f r).id = r.id}, s₀.Trails s → s₀.latestDelivery o = some r →
      (s.deliveries.update r.id f hf).find? d = some row' →
      ∃ row, s.deliveries.find? d = some row ∧ row.orderId = o ∧ row' = f row := by
    intro s₀ o r f hf htrails hr hrow'
    obtain ⟨hseen, hof⟩ := Db.find?_latestDelivery hr
    obtain ⟨row, hrow, hid, rfl⟩ := hupdate hrow'
    obtain ⟨row₁, hrow₁, ht⟩ := htrails.deliveries.find? hseen
    rw [hid, hrow] at hrow₁
    obtain rfl := Option.some.inj hrow₁
    exact ⟨row, hrow, ht.orderId.trans hof, rfl⟩
  cases hstep with
  | aside haside => exact absurd (haside.deliveries ▸ hrow') hmoved
  | markReady o choice token hsaw hnew =>
    cases choice with
    | pickup =>
      dsimp only at hnew hrow'
      exact absurd (hnew ▸ hrow') hmoved
    | delivery =>
      dsimp only at hnew hrow'
      rw [Table.find?_insert hnew] at hrow'
      split at hrow'
      · rename_i hd
        have hd' : d = generateUlid me 2 := hd
        obtain rfl := Option.some.inj hrow'
        exact .inl ⟨hd' ▸ (Table.insert?_eq_some.mp hnew).1, _, rfl⟩
      · exact absurd hrow' hmoved
  | mintPickupToken d₁ token hsaw =>
    dsimp only at hrow'
    obtain ⟨row, hrow, rfl, rfl⟩ := hupdate hrow'
    exact .inr ⟨row, hrow, .pickupToken rfl⟩
  | mintDeliveryToken d₁ token hsaw =>
    dsimp only at hrow'
    obtain ⟨row, hrow, rfl, rfl⟩ := hupdate hrow'
    exact .inr ⟨row, hrow, .deliveryToken rfl⟩
  | switchToPickup o hR hsaw hstatus =>
    dsimp only at hrow'
    split at hrow'
    · exact absurd hrow' hmoved
    · rename_i r hr
      obtain ⟨row, hrow, rfl, rfl⟩ := hlatest hR hr hrow'
      exact .inr ⟨row, hrow, .switched rfl⟩
  | cancelNoDriver o reason hR hsaw hprompted =>
    dsimp only at hrow'
    split at hrow'
    · exact absurd hrow' hmoved
    · rename_i r hr
      obtain ⟨row, hrow, rfl, rfl⟩ := hlatest hR hr hrow'
      exact .inr ⟨row, hrow, .unclaimed rfl⟩
  | sellerCannotProvide o hR hsaw hstatus hpickup =>
    dsimp only at hrow'
    split at hrow'
    · exact absurd hrow' hmoved
    · rename_i r hr
      have hr' : _ := (Option.filter_eq_some_iff.mp hr).1
      obtain ⟨row, hrow, rfl, rfl⟩ := hlatest hR hr' hrow'
      exact .inr ⟨row, hrow, .unprovided rfl⟩
  | driverDisappeared d₁ o hdelivery horder =>
    dsimp only at hrow'
    obtain ⟨row, hrow, rfl, rfl⟩ := hupdate hrow'
    exact .inr ⟨row, hrow, .disappeared⟩
  | claim d₁ driver hcall =>
    dsimp only at hrow'
    rw [Table.find?_updateMany, Option.map_eq_some_iff] at hrow'
    obtain ⟨row, hrow, hupdated⟩ := hrow'
    refine .inr ⟨row, hrow, ?_⟩
    split at hupdated
    · rename_i hclaimable
      simp only [claimable, Bool.and_eq_true, decide_eq_true_eq, Option.isNone_iff_eq_none]
        at hclaimable
      obtain ⟨⟨hid, -⟩, hfree⟩ := hclaimable
      have hkey : row.id = d := Table.key_of_find? hrow
      obtain rfl := hkey.symm.trans hid
      subst hupdated
      exact .claimed hfree rfl rfl
    · exact absurd (hupdated ▸ hrow) hmoved
  | arriveAtPickup | confirmPickup | confirmDelivery | confirmAbsentDropoff | reportSellerUnavailable =>
    dsimp only at hrow'
    obtain ⟨row, hrow, rfl, rfl⟩ := hupdate hrow'
    exact .inr ⟨row, hrow, .driven rfl⟩
  | _ => exact absurd hrow' hmoved

/-! ## What a handler has checked -/

/-- The call has come through a state like this. -/
def Seen (h : List (StepRecord machine)) (P : Db → Prop) : Prop := ∃ t ∈ h, P t.post

/-- What the call of a user has seen allows it the statement. -/
inductive Permitted (sub : String) (h : List (StepRecord machine)) (s₁ s₂ : Db) : Site → Prop where
  | quiet {site : Site} (hquiet : site.quiet = true) : Permitted sub h s₁ s₂ site
  | order {site : Site} {u : UserId} {o : OrderId} {party : Party}
      (huser : Seen h fun s => s.userIdOf sub = some u) (hparty : Seen h fun s => s.isParty u o party)
      (hmay : party.may o site = true) : Permitted sub h s₁ s₂ site
  | pickupToken {u : UserId} {o : OrderId} {d : DeliveryId}
      (huser : Seen h fun s => s.userIdOf sub = some u) (hparty : Seen h fun s => s.isParty u o .seller)
      (hdelivery : Seen h fun s => ∃ row, s.deliveries.find? d = some row ∧ row.orderId = o) :
      Permitted sub h s₁ s₂ (.mintPickupToken d)
  | deliveryToken {u : UserId} {o : OrderId} {d : DeliveryId}
      (huser : Seen h fun s => s.userIdOf sub = some u) (hparty : Seen h fun s => s.isParty u o .buyer)
      (hdelivery : Seen h fun s => ∃ row, s.deliveries.find? d = some row ∧ row.orderId = o) :
      Permitted sub h s₁ s₂ (.mintDeliveryToken d)
  | driven {site : Site} {u : UserId} {d : DeliveryId} {st : DeliveryStatus}
      (huser : Seen h fun s => s.userIdOf sub = some u)
      (hdriver : Seen h fun s => ∃ row, s.deliveries.find? d = some row ∧ row.driverId = some u)
      (hsite : site.drives = some (d, st)) : Permitted sub h s₁ s₂ site
  | claim {u : UserId} {d : DeliveryId} (huser : Seen h fun s => s.userIdOf sub = some u) :
      Permitted sub h s₁ s₂ (.claim d u)
  -- the order that a checkout places is its caller's
  | place {u : UserId} {o : OrderId} (huser : Seen h fun s => s.userIdOf sub = some u)
      (hbuyer : s₁.orders.find? o = none → ∀ row, s₂.orders.find? o = some row → row.buyerId = u) :
      Permitted sub h s₁ s₂ (.placeOrder o)

/-- The contract of a user's call: it makes the statements that it is permitted. -/
def permittedContract (sub : String) : Contract machine where
  rely _ _ := True
  guar h site s₁ s₂ := Permitted sub h s₁ s₂ site

theorem permitted_query {sub : String} (h : List (StepRecord machine)) (s : Db) :
    (permittedContract sub).guar h .query s s := .quiet rfl

theorem Seen.cons {P : Db → Prop} {t : StepRecord machine} (hs : Seen h P) : Seen (t :: h) P := by
  obtain ⟨t', ht', hP⟩ := hs
  exact ⟨t', List.mem_cons_of_mem _ ht', hP⟩

/-- The step just taken has seen its own result. -/
theorem seen_head {P : Db → Prop} {site : Site} (hP : P s') : Seen (⟨site, s, s'⟩ :: h) P :=
  ⟨_, List.mem_cons_self .., hP⟩

variable {α : Type} {sub : String} {u : UserId}

/-- The statements of a program on an order of which the caller is a party. -/
abbrev partyContract (o : OrderId) (party : Party) : Contract machine :=
  sitesContract fun site => site.quiet = true ∨ party.may o site = true

/-- Once the caller is known and seen to be a party, the rest is permitted. -/
theorem permitted_rest {party : Party} {p : Handler α} (huser : Seen h fun s => s.userIdOf sub = some u)
    (hparty : Seen h fun s => s.isParty u o party) (hp : Free (partyContract o party) p) :
    Sat (permittedContract sub) anyPost p h s := by
  have hseen := (sat_since (s := s) (p := p) huser).and (sat_since (s := s) (p := p) hparty)
  refine ((hp h s).and hseen).mono (fun _ _ _ => ⟨trivial, trivial, trivial⟩) ?_ fun _ _ _ _ => trivial
  rintro h site s s' ⟨hquiet | hmay, huser, hparty⟩
  · exact .quiet hquiet
  · exact .order huser hparty hmay

/-- The statements of a driver's program. -/
abbrev driverContract (d : DeliveryId) (o : OrderId) : Contract machine :=
  sitesContract fun site =>
    site.quiet = true ∨ Party.driver.may o site = true ∨ ∃ st, site.drives = some (d, st)

/-- So it is for the driver of a delivery. -/
theorem permitted_drive {p : Handler α} (huser : Seen h fun s => s.userIdOf sub = some u)
    (hdriver : Seen h fun s => ∃ row, s.deliveries.find? d = some row ∧ row.orderId = o ∧
      row.driverId = some u)
    (hp : Free (driverContract d o) p) : Sat (permittedContract sub) anyPost p h s := by
  have hseen := (sat_since (s := s) (p := p) huser).and (sat_since (s := s) (p := p) hdriver)
  refine ((hp h s).and hseen).mono (fun _ _ _ => ⟨trivial, trivial, trivial⟩) ?_ fun _ _ _ _ => trivial
  rintro h site s s' ⟨hquiet | hmay | ⟨st, hsite⟩, huser, t, ht, row, hrow, hof, hassigned⟩
  · exact .quiet hquiet
  · have hparty : Seen h fun s => s.isParty u o .driver := ⟨t, ht, d, row, hrow, hof, hassigned⟩
    exact .order huser hparty hmay
  · exact .driven huser ⟨t, ht, row, hrow, hassigned⟩ hsite

/-- The handlers look up their caller first. -/
theorem assertSellerUser_permitted {k : UserId → Handler α}
    (hk : ∀ u s, Seen (⟨.query, s, s⟩ :: h) (fun s => s.userIdOf sub = some u) →
      Sat (permittedContract sub) anyPost (k u) (⟨.query, s, s⟩ :: h) s) :
    Sat (permittedContract sub) anyPost (assertSellerUser sub >>= k) h s := by
  refine sat_bind (sat_read_bind fun s' _ => ⟨permitted_query _ _, ?_⟩)
  refine sat_orThrow_bind (fun _ => trivial) fun user huser => ?_
  refine sat_pure (hk user.id s' (seen_head ?_))
  exact congrArg (Option.map User.id) huser

/-- The seller's handlers load an order of theirs. -/
theorem loadOrderForSellerAction_permitted {k : Order → Handler α}
    (hk : ∀ row s, Seen (⟨.query, s, s⟩ :: h) (fun s => s.isParty u o .seller) →
      Sat (permittedContract sub) anyPost (k row) (⟨.query, s, s⟩ :: h) s) :
    Sat (permittedContract sub) anyPost (loadOrderForSellerAction o u >>= k) h s := by
  refine sat_bind (sat_read_bind fun s' _ => ⟨permitted_query _ _, ?_⟩)
  refine sat_orThrow_bind (fun _ => trivial) fun row hrow => ?_
  refine sat_throwIf_bind (fun _ => trivial) fun hseller => ?_
  rw [not_not] at hseller
  exact sat_pure (hk row s' (seen_head ⟨row, hrow, hseller⟩))

/-- The driver's handlers look up their caller, and load a delivery of theirs. -/
theorem driver_permitted {k : Driver → Delivery → Handler α}
    (hk : ∀ u driver row h s, driver.userId = u → Seen h (fun s => s.userIdOf sub = some u) →
      Seen h (fun s => ∃ r, s.deliveries.find? d = some r ∧ r.orderId = row.orderId ∧
        r.driverId = some u) →
      Sat (permittedContract sub) anyPost (k driver row) h s) :
    Sat (permittedContract sub) anyPost
      (assertDriver sub >>= fun driver => loadDeliveryForDriver d driver.userId >>= k driver) h s := by
  refine assertDriver_bind permitted_query (fun _ _ _ => trivial) fun s₀ driver user _ huser hid => ?_
  refine loadDeliveryForDriver_bind permitted_query (fun _ _ _ => trivial) fun s₁ row _ hrow hdriver => ?_
  refine hk driver.userId driver row _ _ rfl ?_ (seen_head ⟨row, hrow, rfl, hdriver⟩)
  refine Seen.cons (seen_head ?_)
  rw [← hid]
  exact congrArg (Option.map User.id) huser

/-! ## The handlers -/

variable {party : Party}

/-- The statements that `P` allows, the quiet ones among them. -/
abbrev allowedContract (P : Site → Prop) : Contract machine := sitesContract P

variable {P : Site → Prop}

theorem quiet_allowed (hP : ∀ site, site.quiet = true → P site) {site : Site} (hquiet : site.quiet = true)
    (h : List (StepRecord machine)) (s : Db) : (allowedContract P).guar h site s s :=
  hP site hquiet

theorem quiet_noop (hP : ∀ site, site.quiet = true → P site) (h : List (StepRecord machine)) (s : Db) :
    (allowedContract P).guar h .query s s :=
  quiet_allowed hP rfl h s

theorem quiet_await (hP : ∀ site, site.quiet = true → P site) {site : Site} {stmt : Answer → Tx α}
    (hquiet : site.quiet = true) : Free (allowedContract P) (await site stmt) :=
  free_await_site (hP site hquiet)

theorem addStrike_quiet (hP : ∀ site, site.quiet = true → P site) {input : Strikes.AddStrikeInput} :
    Free (allowedContract P) (Strikes.addStrike me input) :=
  addStrike_of (quiet_noop hP) (fun _ => quiet_await hP rfl) (quiet_await hP rfl)

theorem refundOrderIfNeeded_allowed (hP : ∀ site, site.quiet = true → P site) (hsave : P (.saveRefund o)) :
    Free (allowedContract P) (refundOrderIfNeeded o) :=
  refundOrderIfNeeded_of (quiet_noop hP) (fun _ => quiet_await hP rfl) (fun _ => free_await_site hsave)
    (quiet_await hP rfl)

theorem creditForCompletedOrder_quiet (hP : ∀ site, site.quiet = true → P site) :
    Free (allowedContract P) (creditForCompletedOrder cfg me o) := by
  refine free_bind (free_read (quiet_noop hP)) fun found => ?_
  obtain ⟨row, delivery, now⟩ := found
  cases row with
  | none => exact free_pure
  | some row => exact free_ite (free_ite free_pure (quiet_await hP rfl)) free_pure

theorem party_quiet (o : OrderId) (party : Party) (site : Site) (hquiet : site.quiet = true) :
    site.quiet = true ∨ party.may o site = true := .inl hquiet

theorem party_await {site : Site} {stmt : Answer → Tx α} (hmay : party.may o site = true) :
    Free (partyContract o party) (await site stmt) :=
  free_await_site (.inr hmay)

theorem findOrderWithRelations_party : Free (partyContract o party) (findOrderWithRelations o) :=
  findOrderWithRelations_of (quiet_noop (party_quiet o party))

theorem may_saveRefund : party.may o (.saveRefund o) = true := by
  cases party <;> exact decide_eq_true rfl

theorem refundOrderIfNeeded_party : Free (partyContract o party) (refundOrderIfNeeded o) :=
  refundOrderIfNeeded_allowed (party_quiet o party) (.inr may_saveRefund)

theorem strike_party {input : Strikes.AddStrikeInput} :
    Free (partyContract o party) (tryCatch (do
      let _ ← Strikes.addStrike me input
      pure ()) fun _ => pure ()) :=
  strike_of (addStrike_quiet (party_quiet o party))

/-! ### The seller's -/

theorem startPreparing_permitted : Sat (permittedContract sub) anyPost (startPreparing sub o) h s := by
  refine assertSellerUser_permitted fun u s₀ huser => ?_
  refine loadOrderForSellerAction_permitted fun row s₁ hseller => permitted_rest huser.cons hseller ?_
  refine free_bind free_throwIf fun _ => free_bind (party_await ?_) fun _ => findOrderWithRelations_party
  simp [Party.may]

theorem markReady_permitted : Sat (permittedContract sub) anyPost (markReady me sub o) h s := by
  refine assertSellerUser_permitted fun u s₀ huser => ?_
  refine loadOrderForSellerAction_permitted fun row s₁ hseller => permitted_rest huser.cons hseller ?_
  refine free_bind free_throwIf fun _ => free_bind (party_await ?_) fun _ => findOrderWithRelations_party
  exact decide_eq_true rfl

theorem cancelAsSeller_permitted {reason : String} :
    Sat (permittedContract sub) anyPost (cancelAsSeller sub o reason) h s := by
  refine assertSellerUser_permitted fun u s₀ huser => ?_
  refine loadOrderForSellerAction_permitted fun row s₁ hseller => permitted_rest huser.cons hseller ?_
  refine free_bind free_throwIf fun _ => free_bind (party_await (decide_eq_true rfl)) fun _ => ?_
  exact free_bind refundOrderIfNeeded_party fun _ => findOrderWithRelations_party

theorem sellerCannotProvide_permitted {dto : SellerCannotProvideDto} :
    Sat (permittedContract sub) anyPost (sellerCannotProvide me sub o dto) h s := by
  refine assertSellerUser_permitted fun u s₀ huser => ?_
  refine sat_read_bind fun s₁ _ => ⟨permitted_query _ _, ?_⟩
  refine sat_orThrow_bind (fun _ => trivial) fun row hrow => ?_
  refine sat_throwIf_bind (fun _ => trivial) fun hseller => ?_
  rw [not_not] at hseller
  have hparty : Seen (⟨.query, s₁, s₁⟩ :: ⟨.query, s₀, s₀⟩ :: h)
      fun s => s.isParty u o .seller :=
    seen_head ⟨row, hrow, hseller⟩
  refine permitted_rest huser.cons hparty ?_
  refine free_bind free_throwIf fun _ => free_bind free_throwIf fun _ => free_bind free_throwIf fun _ => ?_
  refine free_bind (party_await (decide_eq_true rfl)) fun _ => ?_
  refine free_bind refundOrderIfNeeded_party fun _ => ?_
  exact free_bind strike_party fun _ => findOrderWithRelations_party

theorem getSellerPickupQr_permitted : Sat (permittedContract sub) anyPost (getSellerPickupQr sub o) h s := by
  refine assertSellerUser_permitted fun u s₀ huser => ?_
  refine sat_read_bind fun s₁ _ => ⟨permitted_query _ _, ?_⟩
  refine sat_orThrow_bind (fun _ => trivial) fun row hrow => ?_
  refine sat_throwIf_bind (fun _ => trivial) fun hseller => ?_
  refine sat_throwIf_bind (fun _ => trivial) fun _ => ?_
  refine sat_orThrow_bind (fun _ => trivial) fun delivery hlatest => ?_
  rw [not_not] at hseller
  split
  · exact sat_pure trivial
  · obtain ⟨hfound, hof⟩ := Db.find?_latestDelivery hlatest
    have hparty : Seen (⟨.query, s₁, s₁⟩ :: ⟨.query, s₀, s₀⟩ :: h)
        fun s => s.isParty u o .seller :=
      seen_head ⟨row, hrow, hseller⟩
    have hdelivery : Seen (⟨.query, s₁, s₁⟩ :: ⟨.query, s₀, s₀⟩ :: h) fun s =>
        ∃ r, s.deliveries.find? delivery.id = some r ∧ r.orderId = o :=
      seen_head ⟨delivery, hfound, hof⟩
    refine sat_await_bind fun s₂ _ i => ⟨fun _ _ => ⟨?_, trivial⟩, fun _ _ _ => ⟨?_, trivial⟩⟩
    · exact .pickupToken huser.cons hparty hdelivery
    · exact .pickupToken huser.cons hparty hdelivery

/-! ### The buyer's -/

theorem confirmPaymentForBuyer_permitted :
    Sat (permittedContract sub) anyPost (confirmPaymentForBuyer cfg sub o) h s := by
  refine sat_read_bind fun s₀ _ => ⟨permitted_query _ _, ?_⟩
  refine sat_orThrow_bind (fun _ => trivial) fun user huser => ?_
  refine sat_read_bind fun s₁ _ => ⟨permitted_query _ _, ?_⟩
  refine sat_orThrow_bind (fun _ => trivial) fun row hrow => ?_
  refine sat_throwIf_bind (fun _ => trivial) fun hbuyer => ?_
  rw [not_not] at hbuyer
  have hlogin : Seen (⟨.query, s₁, s₁⟩ :: ⟨.query, s₀, s₀⟩ :: h) fun s => s.userIdOf sub = some user.id :=
    Seen.cons (seen_head (congrArg (Option.map User.id) huser))
  have hparty : Seen (⟨.query, s₁, s₁⟩ :: ⟨.query, s₀, s₀⟩ :: h)
      fun s => s.isParty user.id o .buyer :=
    seen_head ⟨row, hrow, hbuyer⟩
  refine permitted_rest hlogin hparty (free_ite ?_ findOrderWithRelations_party)
  refine free_bind (isPaymentSucceeded_of (quiet_allowed (party_quiet o .buyer) rfl)) fun paid => ?_
  refine free_bind free_throwIf fun _ => ?_
  exact free_bind (party_await (decide_eq_true rfl)) fun _ => findOrderWithRelations_party

theorem getBuyerDeliveryQr_permitted : Sat (permittedContract sub) anyPost (getBuyerDeliveryQr sub o) h s := by
  refine assertSellerUser_permitted fun u s₀ huser => ?_
  refine sat_read_bind fun s₁ _ => ⟨permitted_query _ _, ?_⟩
  refine sat_orThrow_bind (fun _ => trivial) fun row hrow => ?_
  refine sat_throwIf_bind (fun _ => trivial) fun hbuyer => ?_
  refine sat_throwIf_bind (fun _ => trivial) fun _ => ?_
  refine sat_orThrow_bind (fun _ => trivial) fun delivery hpicked => ?_
  rw [not_not] at hbuyer
  split
  · exact sat_pure trivial
  · obtain ⟨hlatest, -⟩ := Option.filter_eq_some_iff.mp hpicked
    obtain ⟨hfound, hof⟩ := Db.find?_latestDelivery hlatest
    have hparty : Seen (⟨.query, s₁, s₁⟩ :: ⟨.query, s₀, s₀⟩ :: h)
        fun s => s.isParty u o .buyer :=
      seen_head ⟨row, hrow, hbuyer⟩
    have hdelivery : Seen (⟨.query, s₁, s₁⟩ :: ⟨.query, s₀, s₀⟩ :: h) fun s =>
        ∃ r, s.deliveries.find? delivery.id = some r ∧ r.orderId = o :=
      seen_head ⟨delivery, hfound, hof⟩
    refine sat_await_bind fun s₂ _ i => ⟨fun _ _ => ⟨?_, trivial⟩, fun _ _ _ => ⟨?_, trivial⟩⟩
    · exact .deliveryToken huser.cons hparty hdelivery
    · exact .deliveryToken huser.cons hparty hdelivery

theorem decideNoDriver_permitted {decision : NoDriverDecision} :
    Sat (permittedContract sub) anyPost (decideNoDriver sub o decision) h s := by
  refine assertSellerUser_permitted fun u s₀ huser => ?_
  refine sat_read_bind fun s₁ _ => ⟨permitted_query _ _, ?_⟩
  refine sat_orThrow_bind (fun _ => trivial) fun row hrow => ?_
  refine sat_throwIf_bind (fun _ => trivial) fun hbuyer => ?_
  rw [not_not] at hbuyer
  have hkey : row.id = o := Table.key_of_find? hrow
  have hparty : Seen (⟨.query, s₁, s₁⟩ :: ⟨.query, s₀, s₀⟩ :: h)
      fun s => s.isParty u o .buyer :=
    seen_head ⟨row, hrow, hbuyer⟩
  refine permitted_rest huser.cons hparty (free_bind free_throwIf fun _ => ?_)
  rw [hkey]
  cases decision with
  | switchToPickup =>
    exact free_bind (party_await (decide_eq_true rfl)) fun _ => findOrderWithRelations_party
  | cancelAndRefund =>
    refine free_bind ?_ fun _ => findOrderWithRelations_party
    exact cancelNoDriverOrder_of (quiet_noop (party_quiet o _)) (fun _ _ => party_await (decide_eq_true rfl))
      refundOrderIfNeeded_party

/-- A pickup is confirmed by the buyer or the seller. -/
theorem confirmOrderPickup_permitted :
    Sat (permittedContract sub) anyPost (Orders.confirmPickup cfg me sub o) h s := by
  refine assertSellerUser_permitted fun u s₀ huser => ?_
  refine sat_read_bind fun s₁ _ => ⟨permitted_query _ _, ?_⟩
  refine sat_orThrow_bind (fun _ => trivial) fun row hrow => ?_
  refine sat_throwIf_bind (fun _ => trivial) fun hparties => ?_
  have hrest : ∀ party, Party.may o party (.pickedUpByBuyer o) = true →
      Free (partyContract o party) (do
        throwIf (row.fulfillmentChoice ≠ .pickup) (.badRequest
          "confirm-pickup is only valid for PICKUP orders; DELIVERY uses the driver flow")
        throwIf (row.status ≠ .ready) (.conflict
          ("Order is in " ++ row.status.text ++ "; confirm-pickup requires READY"))
        await (.pickedUpByBuyer o) fun _ => updateOrder o fun o => { o with status := .delivered }
        releaseFundsForCompletedOrder cfg me o
        findOrderWithRelations o) := by
    intro party hmay
    refine free_bind free_throwIf fun _ => free_bind free_throwIf fun _ => free_bind (party_await hmay) fun _ => ?_
    exact free_bind (creditForCompletedOrder_quiet (party_quiet o party)) fun _ => findOrderWithRelations_party
  rw [not_and_or, not_not, not_not] at hparties
  rcases hparties with hseller | hbuyer
  · have hparty : Seen (⟨.query, s₁, s₁⟩ :: ⟨.query, s₀, s₀⟩ :: h)
        fun s => s.isParty u o .seller :=
      seen_head ⟨row, hrow, hseller⟩
    exact permitted_rest huser.cons hparty (hrest .seller (decide_eq_true rfl))
  · have hparty : Seen (⟨.query, s₁, s₁⟩ :: ⟨.query, s₀, s₀⟩ :: h)
        fun s => s.isParty u o .buyer :=
      seen_head ⟨row, hrow, hbuyer⟩
    exact permitted_rest huser.cons hparty (hrest .buyer (decide_eq_true rfl))

/-- A dispute that was filed is about the caller's order. -/
theorem fileDispute_permitted {dto : CreateDisputeDto} :
    Sat (permittedContract sub) (fun h r _ => ∀ filed, r = .ok filed → filed.1.orderId = o ∧
      ∃ u, Seen h (fun s => s.userIdOf sub = some u) ∧ Seen h fun s => s.isParty u o .buyer)
      (fileDispute me sub o dto) h s := by
  have herr : ∀ {e : Err} {P : OrderDispute × DisputeDecision → Prop} (filed),
      (Except.error e : Except Err _) = .ok filed → P filed := fun _ hok => by cases hok
  refine sat_bind (sat_read_bind fun s₀ _ => ⟨permitted_query _ _, ?_⟩)
  refine sat_orThrow_bind (fun _ => herr) fun user huser => sat_pure ?_
  refine sat_read_bind fun s₁ _ => ⟨permitted_query _ _, ?_⟩
  refine sat_orThrow_bind (fun _ => herr) fun row hrow => ?_
  refine sat_bind (sat_throwIf_bind (fun _ => herr) fun hbuyer => ?_)
  rw [not_not] at hbuyer
  refine sat_throwIf_bind (fun _ => herr) fun _ => sat_throwIf_bind (fun _ => herr) fun _ => ?_
  refine sat_throwIf_bind (fun _ => herr) fun _ => sat_throwIf (fun _ => herr) fun _ => ?_
  refine sat_read_bind fun s₂ _ => ⟨permitted_query _ _, sat_throwIf_bind (fun _ => herr) fun _ => ?_⟩
  refine sat_bind ?_
  cases decideDispute dto.type (s₁.latestDelivery o) row.buyerTotalCents with
  | error e => exact herr
  | ok decision =>
    refine sat_await_bind fun s₃ _ i =>
      ⟨fun _ _ => ⟨.quiet rfl, herr⟩, fun dispute s₄ hrun => ⟨.quiet rfl, ?_⟩⟩
    simp only [Stmt.bind_ok, Stmt.get_ok, createDisputeRow_ok, Stmt.pure_ok] at hrun
    obtain ⟨_, _, ⟨rfl, rfl⟩, _, _, -, rfl, -⟩ := hrun
    have hkey : row.id = o := Table.key_of_find? hrow
    refine sat_pure fun filed hfiled => ?_
    obtain rfl := Except.ok.inj hfiled
    refine ⟨hkey, user.id, ?_, ?_⟩
    · exact Seen.cons (Seen.cons (Seen.cons (seen_head (congrArg (Option.map User.id) huser))))
    · exact Seen.cons (Seen.cons (seen_head ⟨row, hrow, hbuyer⟩))

theorem createDispute_permitted {dto : CreateDisputeDto} :
    Sat (permittedContract sub) anyPost (createDispute me sub o dto) h s := by
  refine sat_bind (fileDispute_permitted.post fun h r s hfiled => ?_)
  cases r with
  | error e => trivial
  | ok filed =>
    obtain ⟨horder, u, huser, hparty⟩ := hfiled filed rfl
    refine permitted_rest huser hparty (free_bind (free_bind ?_ fun _ => ?_) fun _ => free_pure)
    · rw [horder]
      exact free_runIf fun _ => free_bind refundOrderIfNeeded_party fun _ => party_await (decide_eq_true rfl)
    · exact free_runIf fun _ => strike_party

theorem prepared_of_login {p : Handler PreparedOrder} (hlogin : Seen h fun s => s.userIdOf sub = some u)
    (hp : Sat endContract (fun _ r _ => ∀ x, r = .ok x → x.buyerId = u) p h s) :
    Sat endContract (fun h r _ => ∀ x, r = .ok x → Seen h fun s => s.userIdOf sub = some x.buyerId) p h s := by
  refine ((sat_since hlogin).and hp).mono (fun _ _ _ => ⟨trivial, trivial⟩) (fun _ _ _ _ _ => trivial) ?_
  rintro h r s ⟨hseen, hbuyer⟩ x hx
  rw [hbuyer x hx]
  exact hseen

/-- What is prepared is an order of the caller's. -/
theorem prepareOrder_permitted {dto : CreateOrderDto} :
    Sat (permittedContract sub)
      (fun h r _ => ∀ p, r = .ok p → Seen h fun s => s.userIdOf sub = some p.buyerId)
      (prepareOrder cfg me sub dto) h s := by
  have hquiet : Sat (prepareContract fun _ _ => True) anyPost (prepareOrder cfg me sub dto) h s :=
    prepareOrder_free h s
  have hend : Sat endContract
      (fun h r _ => ∀ p, r = .ok p → Seen h fun s => s.userIdOf sub = some p.buyerId)
      (prepareOrder cfg me sub dto) h s := by
    refine sat_read_bind fun s₀ _ => ⟨trivial, ?_⟩
    refine sat_orThrow_bind (fun _ p hp => by cases hp) fun user huser => ?_
    have hlogin : Seen (⟨.query, s₀, s₀⟩ :: h) fun s => s.userIdOf sub = some user.id :=
      seen_head (congrArg (Option.map User.id) huser)
    -- whatever else is looked up, the order is for the user who was found
    have hskip : ∀ {α : Type} {p : Handler α} {k : α → Handler PreparedOrder} {h s},
        (∀ a h s, Sat endContract (fun _ r _ => ∀ p, r = .ok p → p.buyerId = user.id) (k a) h s) →
        Sat endContract (fun _ r _ => ∀ p, r = .ok p → p.buyerId = user.id) (p >>= k) h s :=
      fun hk => sat_end_bind (fun _ _ _ _ hp => by cases hp) hk
    refine prepared_of_login hlogin ?_
    refine hskip fun _ _ _ => hskip fun _ _ _ => hskip fun _ _ _ => hskip fun _ _ _ => ?_
    refine hskip fun cart _ _ => hskip fun _ _ _ => hskip fun _ _ _ => hskip fun _ _ _ => ?_
    refine hskip fun _ _ _ => hskip fun _ _ _ => ?_
    refine hskip fun totals _ _ => hskip fun customer _ _ => sat_pure fun p hp => ?_
    exact congrArg PreparedOrder.buyerId (Except.ok.inj hp).symm
  refine (hquiet.and hend).mono (fun _ _ _ => ⟨trivial, trivial⟩) ?_ fun _ _ _ hpost => hpost.2
  rintro h site s s' ⟨⟨hsite, -⟩, -⟩
  cases site with
  | query | stripeQuery | createCustomer _ | saveCustomer _ | createAddress _ => exact .quiet rfl
  | _ => cases hsite

theorem createOrder_permitted {dto : CreateOrderDto} :
    Sat (permittedContract sub) anyPost (createOrder cfg me sub dto) h s := by
  rw [createOrder_eq]
  refine sat_bind (prepareOrder_permitted.post fun h r s hprepared => ?_)
  cases r with
  | error e => trivial
  | ok p =>
    have huser := hprepared p rfl
    refine sat_await_bind fun s₁ _ i => ⟨fun _ _ => ⟨.place huser ?_, trivial⟩, fun order s₂ hrun => ?_⟩
    · intro habsent row hrow
      rw [habsent] at hrow
      cases hrow
    obtain ⟨listings, orders, hstock, hnew, -, rfl⟩ := placeOrder_ok hrun
    have hplaced : orders.find? (generateUlid me 0) = some _ :=
      (Table.find?_insert hnew _).trans (if_pos rfl)
    refine ⟨.place huser fun _ row hrow => ?_, ?_⟩
    · obtain rfl := Option.some.inj (hplaced.symm.trans hrow)
      rfl
    · have hparty : Seen (⟨.placeOrder (generateUlid me 0), s₁, { s₁ with listings, orders }⟩ :: h) fun s =>
          s.isParty p.buyerId (generateUlid me 0) .buyer := seen_head ⟨_, hplaced, rfl⟩
      refine permitted_rest huser.cons hparty ?_
      refine free_bind (free_tryCatch (quiet_await (party_quiet _ _) rfl) fun _ => free_ite free_pure free_throw)
        fun payment => ?_
      exact free_bind (free_tryCatch (party_await (decide_eq_true rfl)) fun _ => free_pure) fun _ =>
        free_bind free_throwIf fun _ => free_pure

/-! ### The driver's -/

theorem driver_quiet (d : DeliveryId) (o : OrderId) (site : Site) (hquiet : site.quiet = true) :
    site.quiet = true ∨ Party.driver.may o site = true ∨ ∃ st, site.drives = some (d, st) := .inl hquiet

theorem driver_await {site : Site} {stmt : Answer → Tx α} {st : DeliveryStatus}
    (hdrives : site.drives = some (d, st)) : Free (driverContract d o) (await site stmt) :=
  free_await_site (.inr (.inr ⟨st, hdrives⟩))

theorem loadDelivery_driver : Free (driverContract d o) (loadDelivery d) :=
  loadDelivery_of (quiet_noop (driver_quiet d o))

theorem checkOutForDelivery_driver {row : Delivery} : Free (driverContract d o) (checkOutForDelivery row) :=
  free_bind free_throwIf fun _ => free_throwIf

theorem confirmDeliveredByDriver_driver :
    Free (driverContract d o) (confirmDeliveredByDriver cfg me o) := by
  have hread := quiet_noop (driver_quiet d o)
  refine free_bind (free_read hread) fun found => free_bind free_orThrow fun row => ?_
  refine free_bind free_throwIf fun _ => free_bind (free_runIf fun _ => ?_) fun _ => ?_
  · exact free_await_site (.inr (.inl (decide_eq_true rfl)))
  · exact free_bind (creditForCompletedOrder_quiet (driver_quiet d o)) fun _ => findOrderWithRelations_of hread

theorem cancelForSellerUnavailable_driver {driver : UserId} :
    Free (driverContract d o) (cancelForSellerUnavailable me o driver) := by
  have hread := quiet_noop (driver_quiet d o)
  refine free_bind (free_read hread) fun found => free_bind free_orThrow fun row => ?_
  refine free_bind free_throwIf fun _ => free_bind ?_ fun _ => ?_
  · exact free_await_site (.inr (.inl (decide_eq_true rfl)))
  refine free_bind ?_ fun _ => free_bind ?_ fun _ => strike_of (addStrike_quiet (driver_quiet d o))
  · exact refundOrderIfNeeded_allowed (driver_quiet d o) (.inr (.inl may_saveRefund))
  · exact free_ite free_pure (quiet_await (driver_quiet d o) rfl)

theorem arriveAtPickup_permitted : Sat (permittedContract sub) anyPost (arriveAtPickup sub d) h s := by
  refine driver_permitted fun u driver row h s hu huser hdriver => permitted_drive huser hdriver ?_
  exact free_bind free_throwIf fun _ => free_bind (driver_await rfl) fun _ => loadDelivery_driver

theorem confirmPickup_permitted {dto : ConfirmPickupDto} :
    Sat (permittedContract sub) anyPost (Deliveries.confirmPickup sub d dto) h s := by
  refine driver_permitted fun u driver row h s hu huser hdriver => permitted_drive huser hdriver ?_
  refine free_bind free_throwIf fun _ => free_bind free_throwIf fun _ => free_bind free_throwIf fun _ => ?_
  exact free_bind (driver_await rfl) fun _ => loadDelivery_driver

theorem confirmDelivery_permitted {dto : ConfirmDeliveryDto} :
    Sat (permittedContract sub) anyPost (confirmDelivery cfg me sub d dto) h s := by
  refine driver_permitted fun u driver row h s hu huser hdriver => permitted_drive huser hdriver ?_
  refine free_bind checkOutForDelivery_driver fun _ => free_bind free_throwIf fun _ => ?_
  refine free_bind (driver_await rfl) fun _ => ?_
  exact free_bind confirmDeliveredByDriver_driver fun _ => loadDelivery_driver

theorem confirmAbsentDropoff_permitted {dto : ConfirmAbsentDropoffDto} :
    Sat (permittedContract sub) anyPost (confirmAbsentDropoff cfg me sub d dto) h s := by
  refine driver_permitted fun u driver row h s hu huser hdriver => permitted_drive huser hdriver ?_
  refine free_bind checkOutForDelivery_driver fun _ => free_bind free_orThrow fun photo => ?_
  refine free_bind free_orThrow fun position => free_bind (driver_await rfl) fun _ => ?_
  exact free_bind confirmDeliveredByDriver_driver fun _ => loadDelivery_driver

theorem reportSellerUnavailable_permitted {dto : ReportSellerUnavailableDto} :
    Sat (permittedContract sub) anyPost (reportSellerUnavailable me sub d dto) h s := by
  refine driver_permitted fun u driver row h s hu huser hdriver => permitted_drive huser hdriver ?_
  refine free_bind free_throwIf fun _ => free_bind free_throwIf fun _ => ?_
  refine free_bind (free_read (quiet_noop (driver_quiet d _))) fun found => free_bind free_orThrow fun order => ?_
  refine free_bind free_throwIf fun _ => free_bind free_orThrow fun position => ?_
  refine free_bind (driver_await rfl) fun _ => ?_
  exact free_bind cancelForSellerUnavailable_driver fun _ => loadDelivery_driver

/-- A claim checks no more than its caller: its update takes a delivery that has no driver. -/
theorem claim_permitted : Sat (permittedContract sub) anyPost (claim cfg sub d) h s := by
  refine assertDriver_bind permitted_query (fun _ _ _ => trivial) fun s₀ driver user _ huser hid => ?_
  have hlogin : Seen (⟨.query, s₀, s₀⟩ :: h) fun s => s.userIdOf sub = some driver.userId :=
    seen_head (hid ▸ congrArg (Option.map User.id) huser)
  have hallowed : ∀ site : Site, site.quiet = true → site.quiet = true ∨ site = .claim d driver.userId :=
    fun _ hquiet => .inl hquiet
  have hrest : Free (allowedContract fun site => site.quiet = true ∨ site = .claim d driver.userId) (do
      throwIf driver.isSuspended (.forbidden "Votre compte livreur est suspendu.")
      requireKyc cfg driver
      let updated ← await (.claim d driver.userId) fun _ => claimUpdate d driver.userId
      throwIf (updated = 0) (.conflict "Delivery is no longer available")
      loadDelivery d) := by
    refine free_bind free_throwIf fun _ => free_bind ?_ fun _ => free_bind (free_await_site (.inr rfl)) fun _ => ?_
    · exact free_ite free_pure (free_ite (quiet_await hallowed rfl) free_throw)
    · exact free_bind free_throwIf fun _ => loadDelivery_of (quiet_noop hallowed)
  refine ((hrest _ s₀).and (sat_since hlogin)).mono (fun _ _ _ => ⟨trivial, trivial⟩) ?_ fun _ _ _ _ => trivial
  rintro h site s s' ⟨hquiet | rfl, huser⟩
  · exact .quiet hquiet
  · exact .claim huser

/-- A withdrawal touches no order and no delivery. -/
theorem requestWithdrawal_permitted : Sat (permittedContract sub) anyPost (requestWithdrawal me sub) h s := by
  have hallowed : ∀ site : Site, site.quiet = true → site.quiet = true := fun _ hquiet => hquiet
  have hfree : Free (allowedContract fun site => site.quiet = true) (requestWithdrawal me sub) := by
    refine free_bind (free_read (quiet_noop hallowed)) fun _ => free_bind free_orThrow fun user => ?_
    refine free_bind (free_read (quiet_allowed hallowed rfl)) fun available => ?_
    refine free_bind free_throwIf fun _ => free_bind free_throwIf fun _ => free_bind ?_ fun payout => ?_
    · unfold resolvePayoutTarget
      split
      · exact free_read (quiet_noop hallowed)
      · exact free_read (quiet_noop hallowed)
    refine free_bind free_throwIf fun _ => free_bind free_orThrow fun account => ?_
    exact free_bind (quiet_await hallowed rfl) fun _ => free_bind (quiet_await hallowed rfl) fun _ => free_pure
  exact (hfree h s).mono (fun _ _ _ => trivial) (fun _ _ _ _ hquiet => .quiet hquiet) fun _ _ _ _ => trivial

/-- **Every call of a user is permitted what it does.** -/
theorem handle_permitted (hlogin : call.login = some sub) :
    Sat (permittedContract sub) anyPost (handle cfg me call) h s := by
  have hreply : ∀ {α : Type} {p : Handler α} {f : α → Reply} {h s},
      Sat (permittedContract sub) anyPost p h s →
      Sat (permittedContract sub) anyPost (do return f (← p)) h s :=
    fun hp => sat_bind_free hp fun _ => free_pure
  cases call with
  | createOrder sub dto =>
    cases hlogin
    exact hreply createOrder_permitted
  | confirmPaymentForBuyer sub o =>
    cases hlogin
    exact hreply confirmPaymentForBuyer_permitted
  | startPreparing sub o =>
    cases hlogin
    exact hreply startPreparing_permitted
  | markReady sub o =>
    cases hlogin
    exact hreply markReady_permitted
  | getSellerPickupQr sub o =>
    cases hlogin
    exact hreply getSellerPickupQr_permitted
  | getBuyerDeliveryQr sub o =>
    cases hlogin
    exact hreply getBuyerDeliveryQr_permitted
  | decideNoDriver sub o decision =>
    cases hlogin
    exact hreply decideNoDriver_permitted
  | sellerCannotProvide sub o dto =>
    cases hlogin
    exact hreply sellerCannotProvide_permitted
  | confirmOrderPickup sub o =>
    cases hlogin
    exact hreply confirmOrderPickup_permitted
  | cancelAsSeller sub o reason =>
    cases hlogin
    exact hreply cancelAsSeller_permitted
  | createDispute sub o dto =>
    cases hlogin
    exact hreply createDispute_permitted
  | claim sub d =>
    cases hlogin
    exact hreply claim_permitted
  | arriveAtPickup sub d =>
    cases hlogin
    exact hreply arriveAtPickup_permitted
  | confirmPickup sub d dto =>
    cases hlogin
    exact hreply confirmPickup_permitted
  | confirmDelivery sub d dto =>
    cases hlogin
    exact hreply confirmDelivery_permitted
  | confirmAbsentDropoff sub d dto =>
    cases hlogin
    exact hreply confirmAbsentDropoff_permitted
  | reportSellerUnavailable sub d dto =>
    cases hlogin
    exact hreply reportSellerUnavailable_permitted
  | requestWithdrawal sub =>
    cases hlogin
    exact hreply requestWithdrawal_permitted
  | _ => cases hlogin

/-! ## Runs -/

theorem Site.order?_of_quiet (hquiet : site.quiet = true) : site.order? = none := by
  cases site <;> first | rfl | cases hquiet

theorem Site.drives_of_quiet (hquiet : site.quiet = true) : site.drives = none := by
  cases site <;> first | rfl | cases hquiet

theorem Site.order?_of_drives {st : DeliveryStatus} (hsite : site.drives = some (d, st)) :
    site.order? = none := by
  cases site <;> first | rfl | cases hsite

theorem Site.status_of_drives {st : DeliveryStatus} (hsite : site.drives = some (d, st)) :
    st ∈ [DeliveryStatus.atPickup, .pickedUp, .delivered, .cancelled] := by
  unfold Site.drives at hsite
  split at hsite <;> simp_all

theorem applyEvent_keepsParties (e : Event) (s : Db) : s.KeepsParties (applyEvent e s) where
  logins sub := by cases e <;> rfl
  trails := applyEvent_trails e s

/-- What was seen of users and parties is still so. -/
theorem Seen.now {P : Db → Prop} (hseen : Seen h P) (hlater : ∀ t ∈ h, t.post.KeepsParties s)
    (hP : ∀ a, P a → a.KeepsParties s → P s) : P s := by
  obtain ⟨t, ht, hPt⟩ := hseen
  exact hP _ hPt (hlater t ht)

theorem Seen.userIdOf (huser : Seen h fun s => s.userIdOf sub = some u)
    (hlater : ∀ t ∈ h, t.post.KeepsParties s) : s.userIdOf sub = some u :=
  huser.now hlater fun _ hu hkeeps => (hkeeps.logins sub).trans hu

theorem Seen.isParty (hparty : Seen h fun s => s.isParty u o party)
    (hlater : ∀ t ∈ h, t.post.KeepsParties s) : s.isParty u o party :=
  hparty.now hlater fun _ hp hkeeps => hp.later hkeeps.trails

/-- In any interleaving, a step of a user's call is one of the steps of the services, and the call
is permitted it by what still holds of users and parties. -/
theorem user_step (cfg : Config) (s₀ : Db) (actions : List (Pool.Action (service cfg)))
    {e : Entry machine} (he : e ∈ (poolRun s₀ actions).trace) {c : Call}
    (hc : (poolRun s₀ actions).call? e.thread = some c) (hsub : c.login = some sub) :
    (∃ me call h, Step cfg Db.Trails me call h e.site e.pre e.post) ∧
      ∃ h, Permitted sub h e.pre e.post e.site ∧ ∀ t ∈ h, t.post.KeepsParties e.pre := by
  have hany : (poolRun s₀ actions).Steps fun _ _ => True := fun _ _ => trivial
  have hsound := interleaved_sound (R := fun _ => Db.Trails) (I := fun _ => True) trivial
    (fun _ s _ => .refl s) (fun _ _ _ _ hab hbc => hab.trans hbc)
    (fun e s _ => ⟨trivial, fun _ => applyEvent_trails e s⟩)
    (fun _ _ _ _ _ _ _ _ hstep => ⟨trivial, fun _ _ => hstep.trails⟩) actions hany
  have hsteps : ∀ e ∈ (poolRun s₀ actions).trace,
      ∃ call h, Step cfg Db.Trails e.thread call h e.site e.pre e.post := by
    intro e he
    obtain ⟨h, -, -, call, hstep⟩ := hsound.step e he
    exact ⟨call, h, hstep⟩
  have hchain := Pool.chain Db.KeepsParties.refl Db.KeepsParties.trans applyEvent_keepsParties actions
    fun e he => by
      obtain ⟨call, h, hstep⟩ := hsteps e he
      exact ⟨hstep.userIdOf, hstep.trails⟩
  obtain ⟨later, earlier, htrace⟩ := List.append_of_mem he
  have hpermitted := (Pool.own_sat (C := permittedContract sub) (Q := fun _ _ => True) (fun _ _ => trivial)
    (fun s => (handle_permitted hsub).post fun _ _ _ _ => trivial) hc).1
  obtain ⟨call, h, hstep⟩ := hsteps e he
  refine ⟨⟨e.thread, call, h, hstep⟩, _, hpermitted _ _ _ (Pool.ownSteps_of_split htrace), ?_⟩
  intro t ht
  obtain ⟨e', he', rfl⟩ := List.mem_map.mp ht
  exact hchain.between later e earlier htrace e' (List.mem_filter.mp he').1

/-- Only a party rewrites an order. -/
theorem Permitted.of_order? (hpermitted : Permitted sub h s s' site) (horder : site.order? = some o) :
    ∃ u party, (Seen h fun s => s.userIdOf sub = some u) ∧ (Seen h fun s => s.isParty u o party) ∧
      party.may o site = true := by
  cases hpermitted with
  | quiet hquiet =>
    rw [Site.order?_of_quiet hquiet] at horder
    cases horder
  | @order _ u o₁ party huser hparty hmay =>
    obtain rfl : o₁ = o := Option.some.inj ((Party.order?_of_may hmay).symm.trans horder)
    exact ⟨u, party, huser, hparty, hmay⟩
  | driven huser hdriver hdrives =>
    rw [Site.order?_of_drives hdrives] at horder
    cases horder
  | _ => cases horder

/-- Only its driver drives a delivery. -/
theorem Permitted.of_drives {st : DeliveryStatus} (hpermitted : Permitted sub h s s' site)
    (hsite : site.drives = some (d, st)) :
    ∃ u, (Seen h fun s => s.userIdOf sub = some u) ∧
      Seen h fun s => ∃ x, s.deliveries.find? d = some x ∧ x.driverId = some u := by
  cases hpermitted with
  | quiet hquiet =>
    rw [Site.drives_of_quiet hquiet] at hsite
    cases hsite
  | order huser hparty hmay =>
    have horder := (Party.order?_of_may hmay).symm.trans (Site.order?_of_drives hsite)
    cases horder
  | driven huser hdriver hdrives =>
    obtain ⟨rfl, -⟩ := Prod.mk.inj (Option.some.inj (hdrives.symm.trans hsite))
    exact ⟨_, huser, hdriver⟩
  | _ => cases hsite

/-- What the call has seen of a delivery still holds of its row. -/
theorem Seen.delivery {P : Delivery → Prop} {row : Delivery}
    (hseen : Seen h fun s => ∃ x, s.deliveries.find? d = some x ∧ P x)
    (hlater : ∀ t ∈ h, t.post.KeepsParties s) (hP : ∀ x x', P x → x.Trails x' → P x')
    (hrow : s.deliveries.find? d = some row) : P row := by
  have hfound : ∃ x, s.deliveries.find? d = some x ∧ P x := by
    refine hseen.now hlater ?_
    rintro a ⟨x, hx, hPx⟩ hkeeps
    obtain ⟨x', hx', ht⟩ := hkeeps.trails.deliveries.find? hx
    exact ⟨x', hx', hP _ _ hPx ht⟩
  obtain ⟨x, hx, hPx⟩ := hfound
  exact Option.some.inj (hrow.symm.trans hx) ▸ hPx

/-- What a permitted step may do to an order. -/
theorem Step.order_permitted {h₀ : List (StepRecord machine)} (hstep : Step cfg Db.Trails me call h₀ site s s')
    (hpermitted : Permitted sub h s s' site) (hlater : ∀ t ∈ h, t.post.KeepsParties s) {row' : Order}
    (hrow' : s'.orders.find? o = some row') (hmoved : s.orders.find? o ≠ some row') :
    ∃ u, s.userIdOf sub = some u ∧
      (s.orders.find? o = none ∧ row'.buyerId = u ∨
        ∃ row party, s.orders.find? o = some row ∧ s.isParty u o party ∧
          (row'.status = row.status ∨ row'.status ∈ party.mayMoveTo)) := by
  rcases hstep.order_rewritten hrow' hmoved with ⟨rfl, habsent⟩ |
    ⟨⟨row, hrow⟩, horder | ⟨d, driver, r, rfl, hst, hr, hof⟩⟩
  · cases hpermitted with
    | quiet hquiet => cases hquiet
    | @order _ u o₁ party huser hparty hmay => cases party <;> cases hmay
    | driven huser hdriver hdrives => cases hdrives
    | place huser hbuyer => exact ⟨_, huser.userIdOf hlater, .inl ⟨habsent, hbuyer habsent _ hrow'⟩⟩
  · obtain ⟨u, party, huser, hparty, hmay⟩ := hpermitted.of_order? horder
    refine ⟨u, huser.userIdOf hlater, .inr ⟨row, party, hrow, hparty.isParty hlater, ?_⟩⟩
    rcases hstep.status_back hrow' with ⟨row₀, hrow₀, hsame⟩ | hsets | ⟨d, driver, r, rfl, -⟩
    · obtain rfl := Option.some.inj (hrow.symm.trans hrow₀)
      exact .inl hsame.symm
    · exact .inr (Party.mayMoveTo_of_may hmay hsets)
    · cases horder
  · -- the pickup that its driver confirms
    obtain ⟨u, huser, hdriver⟩ := hpermitted.of_drives (d := d) rfl
    have hdrives : r.driverId = some u := hdriver.delivery hlater (fun _ _ hx ht => ht.driverId hx) hr
    have hparty : s.isParty u o .driver := ⟨d, r, hr, hof, hdrives⟩
    refine ⟨u, huser.userIdOf hlater, .inr ⟨row, .driver, hrow, hparty, .inr ?_⟩⟩
    rw [hst]
    simp [Party.mayMoveTo]

/-- A permitted step that rewrites a delivery. -/
theorem DeliveryRewrite.permitted {row row' : Delivery} (hrewrite : DeliveryRewrite d row row' site)
    (hpermitted : Permitted sub h s s' site) (hlater : ∀ t ∈ h, t.post.KeepsParties s)
    (hrow : s.deliveries.find? d = some row) :
    ∃ u, s.userIdOf sub = some u ∧ DeliveryWrite s u row row' := by
  -- the order's buyer or seller cancels its delivery
  have hcancel : site.order? = some row.orderId →
      (∀ party, Party.may row.orderId party site = true → party ≠ .driver) → row'.status = .cancelled →
      ∃ u, s.userIdOf sub = some u ∧ DeliveryWrite s u row row' := by
    intro horder hnot hstatus
    obtain ⟨u, party, huser, hparty, hmay⟩ := hpermitted.of_order? horder
    exact ⟨u, huser.userIdOf hlater, .parties (hparty.isParty hlater) (hnot party hmay) (.inr hstatus)⟩
  cases hrewrite with
  | pickupToken hstatus =>
    cases hpermitted with
    | quiet hquiet => cases hquiet
    | @order _ u o₁ party huser hparty hmay => cases party <;> cases hmay
    | @pickupToken u o _ huser hparty hdelivery =>
      obtain rfl : row.orderId = o := hdelivery.delivery hlater (fun _ _ hx ht => ht.orderId.trans hx) hrow
      exact ⟨u, huser.userIdOf hlater, .parties (hparty.isParty hlater) (by decide) (.inl hstatus)⟩
    | driven huser hdriver hdrives => cases hdrives
  | deliveryToken hstatus =>
    cases hpermitted with
    | quiet hquiet => cases hquiet
    | @order _ u o₁ party huser hparty hmay => cases party <;> cases hmay
    | @deliveryToken u o _ huser hparty hdelivery =>
      obtain rfl : row.orderId = o := hdelivery.delivery hlater (fun _ _ hx ht => ht.orderId.trans hx) hrow
      exact ⟨u, huser.userIdOf hlater, .parties (hparty.isParty hlater) (by decide) (.inl hstatus)⟩
    | driven huser hdriver hdrives => cases hdrives
  | switched hstatus | unclaimed hstatus | unprovided hstatus =>
    refine hcancel rfl (fun party hmay => ?_) hstatus
    rintro rfl
    cases hmay
  | disappeared =>
    obtain ⟨u, party, -, -, hmay⟩ := hpermitted.of_order? rfl
    cases party <;> cases hmay
  | claimed hfree hdriver hstatus =>
    cases hpermitted with
    | quiet hquiet => cases hquiet
    | @order _ u o₁ party huser hparty hmay => cases party <;> cases hmay
    | driven huser hdriver hdrives => cases hdrives
    | claim huser => exact ⟨_, huser.userIdOf hlater, .claimed hfree hdriver hstatus⟩
  | driven hsite =>
    obtain ⟨u, huser, hdriver⟩ := hpermitted.of_drives hsite
    have hdrives : row.driverId = some u := hdriver.delivery hlater (fun _ _ hx ht => ht.driverId hx) hrow
    exact ⟨u, huser.userIdOf hlater, .driven hdrives (Site.status_of_drives hsite)⟩

/-- What a permitted step may do to a delivery. -/
theorem Step.delivery_permitted {h₀ : List (StepRecord machine)}
    (hstep : Step cfg Db.Trails me call h₀ site s s') (hpermitted : Permitted sub h s s' site)
    (hlater : ∀ t ∈ h, t.post.KeepsParties s) {row' : Delivery}
    (hrow' : s'.deliveries.find? d = some row') (hmoved : s.deliveries.find? d ≠ some row') :
    ∃ u, s.userIdOf sub = some u ∧
      (s.deliveries.find? d = none ∧ s.isParty u row'.orderId .seller ∨
        ∃ row, s.deliveries.find? d = some row ∧ DeliveryWrite s u row row') := by
  rcases hstep.delivery_rewritten hrow' hmoved with ⟨habsent, choice, rfl⟩ | ⟨row, hrow, hrewrite⟩
  · cases hpermitted with
    | quiet hquiet => cases hquiet
    | @order _ u o₁ party huser hparty hmay =>
      cases party with
      | seller =>
        obtain rfl : row'.orderId = o₁ := of_decide_eq_true hmay
        exact ⟨u, huser.userIdOf hlater, .inl ⟨habsent, hparty.isParty hlater⟩⟩
      | _ => cases hmay
    | driven huser hdriver hdrives => cases hdrives
  · obtain ⟨u, huser, hwrite⟩ := hrewrite.permitted hpermitted hlater hrow
    exact ⟨u, huser, .inr ⟨row, hrow, hwrite⟩⟩

end

/-- **Users move their own orders only.** In every interleaving of any calls and events, from any
state, a call of a user that writes an order's row either places the order, as its buyer, or the
user is a party to the order, and brings it to no status but one that this party may bring it to. -/
theorem order_written_by_party (cfg : Config) (s₀ : Db) (actions : List (Pool.Action (service cfg)))
    {e : Entry machine} (he : e ∈ (poolRun s₀ actions).trace) {sub : String}
    (hsub : ((poolRun s₀ actions).call? e.thread).bind Call.login = some sub)
    {o : OrderId} {row' : Order} (hrow' : e.post.orders.find? o = some row')
    (hmoved : e.pre.orders.find? o ≠ some row') :
    ∃ u, e.pre.userIdOf sub = some u ∧
      (e.pre.orders.find? o = none ∧ row'.buyerId = u ∨
        ∃ row party, e.pre.orders.find? o = some row ∧ e.pre.isParty u o party ∧
          (row'.status = row.status ∨ row'.status ∈ party.mayMoveTo)) := by
  obtain ⟨c, hc, hlogin⟩ := Option.bind_eq_some_iff.mp hsub
  obtain ⟨⟨me, call, h₀, hstep⟩, h, hpermitted, hlater⟩ := user_step cfg s₀ actions he hc hlogin
  exact hstep.order_permitted hpermitted hlater hrow' hmoved

/-- The small town, its order claimed. -/
def jobTakenTown : Db := (serialRun smallTown orderClaimed).state

/-- The driver and the rival confirm the pickup at the same time, with the same token. -/
def twoPickups : List (Pool.Action (service smallTownConfig)) :=
  [.arrive (.confirmPickup "rival" ⟨3, 2⟩ ⟨"token", none, none⟩),
    .arrive (.confirmPickup "driver" ⟨3, 2⟩ ⟨"token", none, none⟩), .run 0 ⟨true, "", ""⟩,
    .run 1 ⟨true, "", ""⟩, .run 1 ⟨true, "", ""⟩, .run 0 ⟨true, "", ""⟩, .run 1 ⟨true, "buyer's", ""⟩]

/-- The write that confirms it. -/
def pickupStep : Entry machine := (poolRun jobTakenTown twoPickups).trace.get ⟨0, by decide +kernel⟩

/-- The order after it. -/
def pickedUpOrder : Order := (pickupStep.post.orders.find? ⟨0, 0⟩).get (by decide +kernel)

theorem order_picked_up_by_party :
    ∃ u, pickupStep.pre.userIdOf "driver" = some u ∧
      (pickupStep.pre.orders.find? ⟨0, 0⟩ = none ∧ pickedUpOrder.buyerId = u ∨
        ∃ row party, pickupStep.pre.orders.find? ⟨0, 0⟩ = some row ∧
          pickupStep.pre.isParty u ⟨0, 0⟩ party ∧
          (pickedUpOrder.status = row.status ∨ pickedUpOrder.status ∈ party.mayMoveTo)) :=
  order_written_by_party smallTownConfig jobTakenTown twoPickups (List.get_mem _ _) (by decide +kernel)
    (Option.some_get _).symm (by decide +kernel)

/-- **Users write their own deliveries only.** In every interleaving, from any state, a call of a
user that writes a delivery's row either creates it, as the seller of its order, or claims it while
it has no driver, or is made by its driver, or is made by the buyer or the seller of its order and
cancels it or leaves its status as it is. -/
theorem delivery_written_by_party (cfg : Config) (s₀ : Db) (actions : List (Pool.Action (service cfg)))
    {e : Entry machine} (he : e ∈ (poolRun s₀ actions).trace) {sub : String}
    (hsub : ((poolRun s₀ actions).call? e.thread).bind Call.login = some sub)
    {d : DeliveryId} {row' : Delivery} (hrow' : e.post.deliveries.find? d = some row')
    (hmoved : e.pre.deliveries.find? d ≠ some row') :
    ∃ u, e.pre.userIdOf sub = some u ∧
      (e.pre.deliveries.find? d = none ∧ e.pre.isParty u row'.orderId .seller ∨
        ∃ row, e.pre.deliveries.find? d = some row ∧ DeliveryWrite e.pre u row row') := by
  obtain ⟨c, hc, hlogin⟩ := Option.bind_eq_some_iff.mp hsub
  obtain ⟨⟨me, call, h₀, hstep⟩, h, hpermitted, hlater⟩ := user_step cfg s₀ actions he hc hlogin
  exact hstep.delivery_permitted hpermitted hlater hrow' hmoved

/-- The delivery after the confirmed pickup. -/
def deliveryOnTheWay : Delivery := (pickupStep.post.deliveries.find? ⟨3, 2⟩).get (by decide +kernel)

theorem delivery_picked_up_by_party :
    ∃ u, pickupStep.pre.userIdOf "driver" = some u ∧
      (pickupStep.pre.deliveries.find? ⟨3, 2⟩ = none ∧
          pickupStep.pre.isParty u deliveryOnTheWay.orderId .seller ∨
        ∃ row, pickupStep.pre.deliveries.find? ⟨3, 2⟩ = some row ∧
          DeliveryWrite pickupStep.pre u row deliveryOnTheWay) :=
  delivery_written_by_party smallTownConfig jobTakenTown twoPickups (List.get_mem _ _) (by decide +kernel)
    (Option.some_get _).symm (by decide +kernel)

end IncaCook
