import IncaCook.Library.Statement
import IncaCook.Model.Push

/-!
# The steps of the push notifications

`PushStep` lists what one step of a call can do, given the steps that the call took before it: a
push goes to a token that the call has read of a user whom it addresses and has not sent to yet, and
what is pruned are tokens that Firebase has called invalid.

Main result:

* `pushHandle_sat`: every call takes only such steps.
-/

namespace IncaCook

open Prog DeviceTokens Fcm Notifications

/-! ## Who is addressed, and with what -/

/-- The call is one of the user: it has looked the login up. -/
def CalledBy (h : List (StepRecord pushMachine)) (sub : String) (u : UserId) : Prop :=
  ∃ t ∈ h, t.site = .query ∧ ∃ user, t.pre.userBySupabaseId sub = some user ∧ user.id = u

/-- The users whom a call addresses, by what it has read. -/
def Addressed (call : PushCall) (h : List (StepRecord pushMachine)) (u : UserId) : Prop :=
  match call with
  | .register .. | .remove .. => False
  | .sendTestToUser sub => CalledBy h sub u
  | .sendToUsers users _ => u ∈ users
  | .notifyOrderPaid seller _ => u = seller
  | .notifyOrderStatus o _ =>
    ∃ t ∈ h, t.site = .query ∧ ∃ order, t.pre.orders.find? o = some order ∧ u = order.buyerId
  | .notifyDeliveryEvent o _ _ audience =>
    ∃ t ∈ h, t.site = .query ∧ ∃ order, t.pre.orders.find? o = some order ∧
      (audience.buyer = true ∧ u = order.buyerId ∨ audience.seller = true ∧ u = order.sellerId)
  | .notifyDeliveryAvailable _ _ => ∃ t ∈ h, t.site = .query ∧ u ∈ t.pre.online

/-- The push that a call sends. -/
def PushCall.push? : PushCall → Option Push
  | .register .. | .remove .. => none
  | .sendTestToUser _ => some ⟨"IncaCook", "Test notification ✅", .custom [("type", "TEST")]⟩
  | .sendToUsers _ push => some push
  | .notifyOrderPaid _ o =>
    some ⟨"Nouvelle commande payée", "Vous avez reçu une nouvelle commande.", .event "order_paid" o none⟩
  | .notifyOrderStatus o event => some ⟨event.copy.2.1, event.copy.2.2, .event event.copy.1 o none⟩
  | .notifyDeliveryEvent o d event _ => some ⟨event.copy.2.1, event.copy.2.2, .event event.copy.1 o (some d)⟩
  | .notifyDeliveryAvailable o d => some ⟨"Nouvelle livraison disponible",
      "Une livraison est disponible près de vous.", .event "delivery_available" o (some d)⟩

/-- The step has read the tokens of some users, and the row among them. -/
def Reads (row : DeviceToken) (t : StepRecord pushMachine) : Prop :=
  ∃ users, t.site = .readTokens users ∧ row.userId ∈ users ∧ row ∈ t.post.deviceTokens.rows

/-- The call has read the token of a user whom it addresses. -/
def ReadToken (call : PushCall) (h : List (StepRecord pushMachine)) (id : Ulid) (token : String) : Prop :=
  ∃ t ∈ h, ∃ row, Reads row t ∧ row.id = id ∧ row.token = token ∧ Addressed call h row.userId

/-- A row that the call has read is of a token that Firebase has called invalid. -/
def ReadDead (h : List (StepRecord pushMachine)) (id : Ulid) : Prop :=
  ∃ t ∈ h, ∃ row, Reads row t ∧ row.id = id ∧ ∃ t' ∈ h, row.token ∈ t'.post.refused

/-- No two rows have one token. -/
def PushDb.OneRowEach (s : PushDb) : Prop :=
  ∀ r ∈ s.deviceTokens.rows, ∀ r' ∈ s.deviceTokens.rows, r.token = r'.token → r = r'

/-- The call has sent a push to the token. -/
def SentIn (h : List (StepRecord pushMachine)) (token : String) : Prop :=
  ∃ t ∈ h, ∃ push, t.site = .send token push

/-- The tokens are still to be sent to, each once, if no token had two rows whenever the call looked. -/
def Unsent (h : List (StepRecord pushMachine)) (tokens : List String) : Prop :=
  (∀ t ∈ h, t.post.OneRowEach) → tokens.Nodup ∧ ∀ token ∈ tokens, ¬ SentIn h token

/-- What one step of call number `me` can do after its steps `h`. -/
inductive PushStep (me : Nat) (call : PushCall) (h : List (StepRecord pushMachine)) :
    PushSite → PushDb → PushDb → Prop where
  /-- a read, or a statement that failed -/
  | noop (site : PushSite) (s : PushDb) (hsite : ∀ token push, site ≠ .send token push) :
      PushStep me call h site s s
  | register {sub : String} {dto : RegisterDeviceTokenDto} {s s' : PushDb} (u : UserId)
      (hcall : call = .register sub dto) (huser : CalledBy h sub u)
      (hrun : upsertToken me dto u s = .ok ((), s')) :
      PushStep me call h (.register dto.token u) s s'
  | remove {sub : String} {s : PushDb} (token : String) (u : UserId) (hcall : call = .remove sub token)
      (huser : CalledBy h sub u) :
      PushStep me call h (.remove token u) s { s with
        deviceTokens := s.deviceTokens.removeMany fun r => r.token = token && r.userId = u }
  | send {s : PushDb} {push : Push} {token : String} (id : Ulid) (result : SendResult)
      (hpush : call.push? = some push) (hread : ReadToken call h id token) (hunsent : Unsent h [token]) :
      PushStep me call h (.send token push) s (recordSend token push result s)
  | prune {s : PushDb} (ids : List Ulid) (hdead : ∀ id ∈ ids, ReadDead h id) :
      PushStep me call h (.prune ids) s { s with
        deviceTokens := s.deviceTokens.removeMany fun r => decide (r.id ∈ ids) }

/-- The contract of a call: it takes such steps, whatever the others do. -/
def pushContract (me : Nat) (call : PushCall) : Contract pushMachine where
  rely _ _ := True
  guar h site s s' := PushStep me call h site s s'

section

variable {α : Type} {me : Nat} {call : PushCall} {h : List (StepRecord pushMachine)} {s : PushDb}
  {t : StepRecord pushMachine} {ready : Bool} {id : Ulid} {token sub : String} {push : Push} {u : UserId}

theorem push_query (h : List (StepRecord pushMachine)) (s : PushDb) :
    (pushContract me call).guar h .query s s :=
  .noop .query s fun _ _ hsite => by cases hsite

/-! ## What was read stays read -/

theorem Addressed.cons (ha : Addressed call h u) : Addressed call (t :: h) u := by
  cases call with
  | register sub dto => exact ha
  | remove sub token => exact ha
  | sendTestToUser sub =>
    obtain ⟨t', ht', hrest⟩ := ha
    exact ⟨t', List.mem_cons_of_mem _ ht', hrest⟩
  | sendToUsers users push => exact ha
  | notifyOrderPaid seller o => exact ha
  | notifyOrderStatus o event =>
    obtain ⟨t', ht', hrest⟩ := ha
    exact ⟨t', List.mem_cons_of_mem _ ht', hrest⟩
  | notifyDeliveryEvent o d event audience =>
    obtain ⟨t', ht', hrest⟩ := ha
    exact ⟨t', List.mem_cons_of_mem _ ht', hrest⟩
  | notifyDeliveryAvailable o d =>
    obtain ⟨t', ht', hrest⟩ := ha
    exact ⟨t', List.mem_cons_of_mem _ ht', hrest⟩

theorem ReadToken.cons (hr : ReadToken call h id token) : ReadToken call (t :: h) id token := by
  obtain ⟨t', ht', row, hrow, hid, htoken, haddressed⟩ := hr
  exact ⟨t', List.mem_cons_of_mem _ ht', row, hrow, hid, htoken, haddressed.cons⟩

theorem ReadDead.cons (hd : ReadDead h id) : ReadDead (t :: h) id := by
  obtain ⟨t', ht', row, hrow, hid, t₁, ht₁, hrefused⟩ := hd
  exact ⟨t', List.mem_cons_of_mem _ ht', row, hrow, hid, t₁, List.mem_cons_of_mem _ ht₁, hrefused⟩

/-! ## To each token once -/

theorem Unsent.head {tokens : List String} (hu : Unsent h (token :: tokens)) : Unsent h [token] :=
  fun hone => ⟨List.nodup_singleton token, fun token' ht => by
    rw [List.mem_singleton.mp ht]
    exact (hu hone).2 token List.mem_cons_self⟩

theorem Unsent.tail {tokens : List String} (hu : Unsent h (token :: tokens)) : Unsent h tokens :=
  fun hone => ⟨(List.nodup_cons.mp (hu hone).1).2,
    fun token' ht => (hu hone).2 token' (List.mem_cons_of_mem _ ht)⟩

/-- What is left after a push has not been sent to. -/
theorem Unsent.sent {tokens : List String} (hu : Unsent h (token :: tokens)) {s s' : PushDb} :
    Unsent (⟨.send token push, s, s'⟩ :: h) tokens := by
  intro hone
  obtain ⟨hdistinct, hunsent⟩ := hu fun t ht => hone t (List.mem_cons_of_mem _ ht)
  refine ⟨(List.nodup_cons.mp hdistinct).2, fun token' ht hsent => ?_⟩
  obtain ⟨t, htm, push', hsite⟩ := hsent
  rcases List.mem_cons.mp htm with rfl | htm
  · cases hsite
    exact (List.nodup_cons.mp hdistinct).1 ht
  · exact hunsent token' (List.mem_cons_of_mem _ ht) ⟨t, htm, push', hsite⟩

/-- A call that has not sent anything yet may send to the tokens that it reads. -/
theorem Unsent.read {users : List UserId} {s : PushDb} (hnone : ∀ token, ¬ SentIn h token) :
    Unsent (⟨.readTokens users, s, s⟩ :: h) ((s.tokensOf users).map Prod.snd) := by
  intro hone
  refine ⟨?_, fun token _ hsent => ?_⟩
  · have hrows : s.deviceTokens.rows.Nodup := s.deviceTokens.nodup.of_map
    rw [PushDb.tokensOf, List.map_map]
    refine (hrows.filter _).map_on fun r hr r' hr' hsame => ?_
    exact hone _ List.mem_cons_self r (List.mem_of_mem_filter hr) r' (List.mem_of_mem_filter hr') hsame
  · obtain ⟨t, ht, push, hsite⟩ := hsent
    rcases List.mem_cons.mp ht with rfl | ht
    · cases hsite
    · exact hnone token ⟨t, ht, push, hsite⟩

theorem not_sent_nil (token : String) : ¬ SentIn [] token :=
  fun ⟨_, ht, _⟩ => absurd ht List.not_mem_nil

theorem not_sent_query {s s' : PushDb} (token : String) : ¬ SentIn [⟨.query, s, s'⟩] token := by
  rintro ⟨t, ht, push, hsite⟩
  rw [List.mem_singleton.mp ht] at hsite
  cases hsite

/-! ## Sending -/

/-- A push, or none without credentials. -/
theorem send_bind {k : SendResult → PushHandler α} {Q : Post pushMachine α} (hpush : call.push? = some push)
    (hread : ReadToken call h id token) (hunsent : Unsent h [token])
    (hoff : Sat (pushContract me call) Q (k ⟨false, false⟩) h s)
    (hsent : ∀ s' result, Sat (pushContract me call) Q (k result)
      (⟨.send token push, s', recordSend token push result s'⟩ :: h) (recordSend token push result s')) :
    Sat (pushContract me call) Q (sendToTokenWithResult ready token push >>= k) h s := by
  unfold sendToTokenWithResult
  cases ready with
  | false => exact hoff
  | true =>
    rw [if_pos rfl]
    refine sat_await_bind fun s' _ i => ⟨(by intro _ hrun; cases hrun), fun result s'' hrun => ?_⟩
    simp only [Stmt.bind_ok, Stmt.modify_ok, Stmt.pure_ok] at hrun
    obtain ⟨_, _, rfl, rfl, rfl⟩ := hrun
    exact ⟨.send id _ hpush hread hunsent, hsent s' _⟩

/-- The tokens that come back as invalid have been called so. -/
theorem sendEach_sat {tokens : List (Ulid × String)} (hpush : call.push? = some push)
    (htokens : ∀ p ∈ tokens, ReadToken call h p.1 p.2) (hunsent : Unsent h (tokens.map Prod.snd)) :
    Sat (pushContract me call)
      (fun h r _ => ∀ results, r = .ok results → ∀ id ∈ invalidIds results, ReadDead h id)
      (sendEach ready push tokens) h s := by
  -- what is dead already stays so while the rest is sent
  suffices hrest : ∀ h s (dead : List Ulid), (∀ p ∈ tokens, ReadToken call h p.1 p.2) →
      Unsent h (tokens.map Prod.snd) → (∀ id ∈ dead, ReadDead h id) → Sat (pushContract me call)
        (fun h r _ => (∀ id ∈ dead, ReadDead h id) ∧
          ∀ results, r = .ok results → ∀ id ∈ invalidIds results, ReadDead h id)
        (sendEach ready push tokens) h s from
    (hrest h s [] htokens hunsent fun _ hid => absurd hid List.not_mem_nil).post fun _ _ _ hr => hr.2
  clear htokens hunsent
  induction tokens with
  | nil =>
    intro h s dead _ _ hdead
    refine ⟨hdead, fun results hresults => ?_⟩
    cases hresults
    exact fun _ hid => absurd hid List.not_mem_nil
  | cons p tokens ih =>
    intro h s dead htokens hunsent hdead
    obtain ⟨id, token⟩ := p
    have hread := htokens _ List.mem_cons_self
    have hothers : ∀ p ∈ tokens, ReadToken call h p.1 p.2 := fun p hp => htokens p (List.mem_cons_of_mem _ hp)
    refine send_bind hpush hread hunsent.head ?_ fun s' result => ?_
    · refine sat_bind ((ih h s dead hothers hunsent.tail hdead).post fun h r s hr => ?_)
      cases r with
      | error e => exact ⟨hr.1, fun _ he => by cases he⟩
      | ok results =>
        refine ⟨hr.1, fun results' hresults => ?_⟩
        cases hresults
        exact hr.2 results rfl
    · -- the token that was just sent to is dead, if Firebase says so
      have hnow : ∀ id' ∈ (if result.invalidToken then id :: dead else dead), ReadDead
          (⟨.send token push, s', recordSend token push result s'⟩ :: h) id' := by
        intro id' hid'
        cases hinvalid : result.invalidToken with
        | false =>
          rw [hinvalid] at hid'
          exact (hdead id' hid').cons
        | true =>
          rw [hinvalid] at hid'
          rcases List.mem_cons.mp hid' with rfl | hid'
          · obtain ⟨t, ht, row, hrow, hid, htoken, -⟩ := hread
            refine ⟨t, List.mem_cons_of_mem _ ht, row, hrow, hid, _, List.mem_cons_self, ?_⟩
            simp [recordSend, hinvalid, htoken]
          · exact (hdead id' hid').cons
      refine sat_bind ((ih _ _ _ (fun p hp => (hothers p hp).cons) hunsent.sent hnow).post fun h r s hr => ?_)
      have hkept : ∀ id' ∈ dead, ReadDead h id' := by
        intro id' hid'
        refine hr.1 id' ?_
        split
        · exact List.mem_cons_of_mem _ hid'
        · exact hid'
      cases r with
      | error e => exact ⟨hkept, fun _ he => by cases he⟩
      | ok results =>
        refine ⟨hkept, fun results' hresults => ?_⟩
        cases hresults
        intro id' hid'
        rw [invalidIds, List.filter_cons] at hid'
        split at hid'
        · rename_i hbad
          rcases List.mem_cons.mp hid' with rfl | hid'
          · refine hr.1 _ ?_
            simp only [Bool.and_eq_true] at hbad
            rw [if_pos hbad.2]
            exact List.mem_cons_self
          · exact hr.2 results rfl id' hid'
        · exact hr.2 results rfl id' hid'

/-- What is read of the users' tokens may be sent to. -/
theorem tokensForUsers_bind {users : List UserId} {k : List (Ulid × String) → PushHandler α}
    {Q : Post pushMachine α} (husers : ∀ u ∈ users, Addressed call h u)
    (hnone : ∀ token, ¬ SentIn h token)
    (hk : ∀ tokens h s, (∀ p ∈ tokens, ReadToken call h p.1 p.2) → Unsent h (tokens.map Prod.snd) →
      Sat (pushContract me call) Q (k tokens) h s) :
    Sat (pushContract me call) Q (tokensForUsers users >>= k) h s := by
  unfold tokensForUsers
  split
  · exact hk [] h s (fun _ hp => absurd hp List.not_mem_nil)
      fun _ => ⟨List.nodup_nil, fun _ ht => absurd ht List.not_mem_nil⟩
  · refine sat_read_bind fun s' _ =>
      ⟨.noop _ _ (by intro _ _ hsite; cases hsite), hk _ _ _ (fun p hp => ?_) (Unsent.read hnone)⟩
    obtain ⟨row, hrow, rfl⟩ := List.mem_map.mp hp
    obtain ⟨hrow, huser⟩ := List.mem_filter.mp hrow
    have haddressed := husers row.userId (of_decide_eq_true huser)
    exact ⟨_, List.mem_cons_self, row, ⟨users, rfl, of_decide_eq_true huser, hrow⟩, rfl, rfl, haddressed.cons⟩

theorem deleteByIds_sat {ids : List Ulid} (hdead : ∀ id ∈ ids, ReadDead h id) :
    Sat (pushContract me call) anyPost (deleteByIds ids) h s := by
  unfold deleteByIds
  split
  · trivial
  · refine sat_await fun s' _ i => ⟨fun _ _ => ⟨.noop _ _ (by intro _ _ hsite; cases hsite), trivial⟩, ?_⟩
    intro n s'' hrun
    simp only [Stmt.bind_ok, Stmt.get_ok, Stmt.throwIf_ok, Stmt.set_ok, Stmt.pure_ok] at hrun
    obtain ⟨_, _, ⟨rfl, rfl⟩, _, _, ⟨-, rfl⟩, _, _, rfl, -, rfl⟩ := hrun
    exact ⟨.prune ids hdead, trivial⟩

theorem dispatch_sat {users : List UserId} (hpush : call.push? = some push)
    (husers : ∀ u ∈ users, Addressed call h u) (hnone : ∀ token, ¬ SentIn h token) :
    Sat (pushContract me call) anyPost (dispatch ready users push) h s := by
  have hdedup : ∀ u ∈ users.eraseDups, Addressed call h u :=
    fun u hu => husers u (List.mem_eraseDups.mp hu)
  have hbody : Sat (pushContract me call) anyPost (do
      let tokens ← tokensForUsers users.eraseDups
      let results ← sendEach ready push tokens
      let _ ← deleteByIds (invalidIds results)) h s := by
    refine tokensForUsers_bind hdedup hnone fun tokens h s htokens hunsent => ?_
    refine sat_bind ((sendEach_sat hpush htokens hunsent).post fun h r s hr => ?_)
    cases r with
    | error e => trivial
    | ok results => exact sat_bind_free (deleteByIds_sat (hr results rfl)) fun _ => free_pure
  refine sat_tryCatch (hbody.post fun h r s _ => ?_)
  cases r with
  | ok a => trivial
  | error e => trivial

theorem sendToUsers_sat {users : List UserId} (hcall : call = .sendToUsers users push) :
    Sat (pushContract me call) anyPost (sendToUsers ready users push) [] s := by
  have husers : ∀ u ∈ users, Addressed call [] u := by
    rw [hcall]
    exact fun _ hu => hu
  have hpush : call.push? = some push := by
    rw [hcall]
    rfl
  refine tokensForUsers_bind husers not_sent_nil fun tokens h s htokens hunsent =>
    sat_ite (fun _ => trivial) fun _ => ?_
  refine sat_bind ((sendEach_sat hpush htokens hunsent).post fun h r s hr => ?_)
  cases r with
  | error e => trivial
  | ok results => exact sat_bind_free (deleteByIds_sat (hr results rfl)) fun _ => free_pure

theorem sendToUser_sat (hpush : call.push? = some push) (hu : Addressed call h u)
    (hnone : ∀ token, ¬ SentIn h token) :
    Sat (pushContract me call) anyPost (sendToUser ready u push) h s := by
  -- the loop over the tokens
  have hloop : ∀ (tokens : List String) h s, (∀ token ∈ tokens, ∃ id, ReadToken call h id token) →
      Unsent h tokens →
        Sat (pushContract me call) anyPost (tokens.forM fun token => sendToToken ready token push) h s := by
    intro tokens
    induction tokens with
    | nil => exact fun _ _ _ _ => trivial
    | cons token tokens ih =>
      intro h s htokens hunsent
      obtain ⟨id, hread⟩ := htokens token List.mem_cons_self
      have hothers : ∀ token ∈ tokens, ∃ id, ReadToken call h id token :=
        fun token ht => htokens token (List.mem_cons_of_mem _ ht)
      show Sat _ anyPost (sendToToken ready token push >>= fun _ => tokens.forM _) h s
      unfold sendToToken
      refine sat_bind (send_bind hpush hread hunsent.head (ih h s hothers hunsent.tail) fun s' result =>
        ih _ _ (fun token ht => ?_) hunsent.sent)
      obtain ⟨id, hread⟩ := hothers token ht
      exact ⟨id, hread.cons⟩
  refine sat_bind (sat_read_bind fun s' _ => ⟨.noop _ _ (by intro _ _ hsite; cases hsite), ?_⟩)
  refine sat_bind_free (hloop _ _ _ (fun token htoken => ?_) (Unsent.read hnone)) fun _ => free_pure
  obtain ⟨p, hp, rfl⟩ := List.mem_map.mp htoken
  obtain ⟨row, hrow, rfl⟩ := List.mem_map.mp hp
  obtain ⟨hrow, huser⟩ := List.mem_filter.mp hrow
  have hmem := of_decide_eq_true huser
  obtain rfl := List.mem_singleton.mp hmem
  exact ⟨row.id, _, List.mem_cons_self, row, ⟨_, rfl, hmem, List.mem_of_mem_filter hrow⟩, rfl, rfl, hu.cons⟩

/-! ## The calls -/

theorem resolveUserId_bind {k : UserId → PushHandler α}
    (hk : ∀ user s', s'.userBySupabaseId sub = some user →
      Sat (pushContract me call) anyPost (k user.id) (⟨.query, s', s'⟩ :: h) s') :
    Sat (pushContract me call) anyPost (resolveUserId sub >>= k) h s := by
  refine sat_bind (sat_read_bind fun s' _ => ⟨push_query _ _, ?_⟩)
  refine sat_orThrow_bind (fun _ => trivial) fun user huser => ?_
  exact hk user s' huser

/-- **Every call takes only the steps that `PushStep` lists.** -/
theorem pushHandle_sat (me : Nat) (call : PushCall) (s : PushDb) :
    Sat (pushContract me call) anyPost (pushHandle ready me call) [] s := by
  cases call with
  | register sub dto =>
    refine sat_bind_free (resolveUserId_bind fun user s' huser => ?_) fun _ => free_pure
    refine sat_await fun s'' _ i => ⟨fun _ _ => ⟨.noop _ _ (by intro _ _ hsite; cases hsite), trivial⟩, ?_⟩
    intro _ s₁ hrun
    exact ⟨.register user.id rfl ⟨_, List.mem_cons_self, rfl, user, huser, rfl⟩ hrun, trivial⟩
  | remove sub token =>
    refine sat_bind_free (resolveUserId_bind fun user s' huser => ?_) fun _ => free_pure
    refine sat_await fun s'' _ i => ⟨fun _ _ => ⟨.noop _ _ (by intro _ _ hsite; cases hsite), trivial⟩, ?_⟩
    intro _ s₁ hrun
    rw [Stmt.modify_ok.mp hrun]
    exact ⟨.remove token user.id rfl ⟨_, List.mem_cons_self, rfl, user, huser, rfl⟩, trivial⟩
  | sendTestToUser sub =>
    refine sat_bind_free (resolveUserId_bind fun user s' huser => ?_) fun _ => free_pure
    refine sat_bind_free (sendToUser_sat rfl ?_ not_sent_query) fun _ => free_pure
    exact ⟨_, List.mem_cons_self, rfl, user, huser, rfl⟩
  | sendToUsers users push => exact sat_bind_free (sendToUsers_sat rfl) fun _ => free_pure
  | notifyOrderPaid seller o =>
    refine sat_bind_free ?_ fun _ => free_pure
    have hsend : ∀ push, (PushCall.notifyOrderPaid seller o).push? = some push →
        Sat (pushContract me (.notifyOrderPaid seller o)) anyPost (sendToUser ready seller push) [] s :=
      fun push hpush => sendToUser_sat hpush rfl not_sent_nil
    refine sat_tryCatch ((sat_bind_free (hsend _ rfl) fun _ => free_pure).post fun h r s _ => ?_)
    cases r with
    | ok a => trivial
    | error e => trivial
  | notifyOrderStatus o event =>
    refine sat_bind_free (sat_read_bind fun s' _ => ⟨push_query _ _, ?_⟩) fun _ => free_pure
    split
    · trivial
    · rename_i buyerId hbuyer
      obtain ⟨order, horder, rfl⟩ := Option.map_eq_some_iff.mp hbuyer
      refine dispatch_sat rfl (fun u hu => ?_) not_sent_query
      rw [List.mem_singleton.mp hu]
      exact ⟨_, List.mem_cons_self, rfl, order, horder, rfl⟩
  | notifyDeliveryEvent o d event audience =>
    refine sat_bind_free (sat_read_bind fun s' _ => ⟨push_query _ _, ?_⟩) fun _ => free_pure
    split
    · trivial
    · rename_i buyerId sellerId hparties
      obtain ⟨order, horder, hboth⟩ := Option.map_eq_some_iff.mp hparties
      cases hboth
      refine dispatch_sat rfl (fun u hu => ⟨_, List.mem_cons_self, rfl, order, horder, ?_⟩) not_sent_query
      rcases List.mem_append.mp hu with hu | hu
      · split at hu
        · exact .inl ⟨by assumption, List.mem_singleton.mp hu⟩
        · exact absurd hu List.not_mem_nil
      · split at hu
        · exact .inr ⟨by assumption, List.mem_singleton.mp hu⟩
        · exact absurd hu List.not_mem_nil
  | notifyDeliveryAvailable o d =>
    refine sat_bind_free (sat_read_bind fun s' _ => ⟨push_query _ _, ?_⟩) fun _ => free_pure
    exact dispatch_sat rfl (fun u hu => ⟨_, List.mem_cons_self, rfl, hu⟩) not_sent_query

end

end IncaCook
