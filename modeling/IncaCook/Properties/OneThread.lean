import IncaCook.Properties.Conversations

/-!
# One thread per pair

Both ways to open a conversation first look for one of the same type and order between the
same two users, and create it in a later transaction if there is none. The tables have no
key for the three together, so another call may have created it in between.

Main results:

* `ChatStep.oneThread_iff`: the only step that doubles a thread is the creation of a
  conversation that is there already;
* `chatHandle_looks`: a call creates a conversation only after its look-up has found none;
* `one_thread_iff`: there is never more than one thread for a type, an order and a pair if
  and only if no call is overtaken between its look-up and its transaction.
-/

namespace IncaCook

open Prog Conversations Messaging

variable {s s' : ChatDb}

/-- The conversation has exactly two members, different ones. -/
def ChatDb.Paired (db : ChatDb) (c : ConversationId) : Prop := ∃ u v, db.members c = [u, v] ∧ u ≠ v

/-- Two conversations of one type, about one order or none, between the same users. -/
structure ChatDb.SameThread (db : ChatDb) (c c' : Conversation) : Prop where
  type : c.type = c'.type
  orderId : c.orderId = c'.orderId
  members : ∀ u, u ∈ db.members c.id ↔ u ∈ db.members c'.id

theorem ChatDb.SameThread.symm {db : ChatDb} {c c' : Conversation} (h : db.SameThread c c') :
    db.SameThread c' c :=
  ⟨h.type.symm, h.orderId.symm, fun u => (h.members u).symm⟩

structure OneThread (db : ChatDb) : Prop where
  paired : ∀ c ∈ db.conversations.rows, db.Paired c.id
  unique : ∀ c ∈ db.conversations.rows, ∀ c' ∈ db.conversations.rows, db.SameThread c c' → c.id = c'.id

/-- A conversation is created where there is none of its type and order between its two
users, or the database refuses it. -/
def CreatesNew (site : ChatSite) (db : ChatDb) : Prop :=
  ∀ origin new, site = .createConversation origin new →
    (∃ db', createConversation new db = .ok ((), db')) →
    existingConversation db new.type new.orderId new.first.userId new.second.userId = none

/-! ## What breaks it -/

theorem OneThread.stay (hplace : InPlace s s') (hs : OneThread s) : OneThread s' := by
  constructor
  · intro c' hc'
    obtain ⟨c, hc, hid, -, -⟩ := hplace.conversations c' hc'
    obtain ⟨u, v, huv, hne⟩ := hs.paired c hc
    exact ⟨u, v, (hplace.members _).trans (hid ▸ huv), hne⟩
  · intro c₁' hc₁' c₂' hc₂' hsame
    obtain ⟨c₁, hc₁, hid₁, htype₁, horder₁⟩ := hplace.conversations c₁' hc₁'
    obtain ⟨c₂, hc₂, hid₂, htype₂, horder₂⟩ := hplace.conversations c₂' hc₂'
    rw [← hid₁, ← hid₂]
    -- the two stood for the same thread before, with the same members
    refine hs.unique c₁ hc₁ c₂ hc₂ ⟨?_, ?_, fun u => ?_⟩
    · rw [htype₁, htype₂, hsame.type]
    · rw [horder₁, horder₂, hsame.orderId]
    · have hu := hsame.members u
      rwa [hplace.members, hplace.members, ← hid₁, ← hid₂] at hu

/-- What the code looks for. -/
theorem existing_iff {db : ChatDb} {type : ConversationType} {orderId : Option IdText} {a b : UserId} :
    existingConversation db type orderId a b = none ↔ ¬∃ c ∈ db.conversations.rows, c.type = type ∧
      c.orderId.map IdText.ulid = orderId ∧ ∀ u, u ∈ db.members c.id ↔ u = a ∨ u = b := by
  unfold existingConversation
  rw [List.find?_eq_none]
  simp only [Bool.and_eq_true, decide_eq_true_eq, List.all_eq_true, Bool.or_eq_true, not_exists, not_and,
    and_assoc]
  refine forall₂_congr fun c hc => forall₂_congr fun htype horder => ?_
  -- each member is one of the two, and both are members
  constructor
  · intro h hmembers
    exact h (fun u hu => (hmembers u).mp hu) ((hmembers a).mpr (.inl rfl)) ((hmembers b).mpr (.inr rfl))
  · rintro h hall ha hb
    refine h fun u => ⟨hall u, ?_⟩
    rintro (rfl | rfl)
    · exact ha
    · exact hb

/-- The row has the order that was asked for, in any spelling that the key accepts. -/
theorem Created.row_orderId {new : NewConversation} (hcreated : Created new s s') :
    (new.row s.now).orderId.map IdText.ulid = new.orderId := by
  unfold NewConversation.row
  cases ht : new.orderId with
  | none => rfl
  | some t =>
    obtain ⟨o, rfl⟩ := hcreated.order t ht
    rfl

theorem Created.pair {new : NewConversation} (hcreated : Created new s s') (hl : Linked s) (u : UserId) :
    u ∈ s'.members new.id ↔ u = new.first.userId ∨ u = new.second.userId := by
  rw [(members_created hcreated hl).1, List.mem_pair, or_comm]

/-- The creation of a conversation. -/
theorem Created.oneThread_iff {new : NewConversation} (hcreated : Created new s s') (hl : Linked s)
    (hs : OneThread s) (hne : new.first.userId ≠ new.second.userId) :
    OneThread s' ↔
      existingConversation s new.type new.orderId new.first.userId new.second.userId = none := by
  obtain ⟨hmembers, hothers⟩ := members_created hcreated hl
  have hfresh : ∀ c ∈ s.conversations.rows, c.id ≠ new.id :=
    Table.find?_eq_none.mp (Table.insert?_eq_some.mp hcreated.conversations).1
  have hpair := hcreated.pair hl
  -- an old conversation is the thread of the new one exactly when the lookup would find it
  have hthread : ∀ c ∈ s.conversations.rows, s'.SameThread c (new.row s.now) ↔ c.type = new.type ∧
      c.orderId.map IdText.ulid = new.orderId ∧
      ∀ u, u ∈ s.members c.id ↔ u = new.first.userId ∨ u = new.second.userId := by
    intro c hc
    rw [← hothers c.id (hfresh c hc), ← hcreated.row_orderId]
    constructor
    · rintro ⟨htype, hsame, hmem⟩
      exact ⟨htype, by rw [hsame], fun u => (hmem u).trans (hpair u)⟩
    · rintro ⟨htype, hsame, hmem⟩
      exact ⟨htype, Option.map_injective (fun _ _ h => IdText.ulid.inj h) hsame,
        fun u => (hmem u).trans (hpair u).symm⟩
  rw [existing_iff]
  constructor
  · rintro hpost ⟨c, hc, hsame⟩
    refine hfresh c hc (hpost.unique c ?_ (new.row s.now) ?_ ((hthread c hc).mpr hsame))
    · rw [hcreated.rows.1]
      exact List.mem_cons_of_mem _ hc
    · rw [hcreated.rows.1]
      exact List.mem_cons_self ..
  · intro hnone
    constructor
    · intro c hc
      rw [hcreated.rows.1] at hc
      rcases List.mem_cons.mp hc with rfl | hc
      · exact ⟨_, _, hmembers, hne.symm⟩
      · obtain ⟨u, v, huv, huv'⟩ := hs.paired c hc
        exact ⟨u, v, (hothers c.id (hfresh c hc)).trans huv, huv'⟩
    · intro c₁ hc₁ c₂ hc₂ hsame
      rw [hcreated.rows.1] at hc₁ hc₂
      -- two threads of one kind: either is the new one, or both were there
      rcases List.mem_cons.mp hc₁ with rfl | hc₁
      · rcases List.mem_cons.mp hc₂ with rfl | hc₂
        · rfl
        · exact absurd ⟨c₂, hc₂, (hthread c₂ hc₂).mp hsame.symm⟩ hnone
      · rcases List.mem_cons.mp hc₂ with rfl | hc₂
        · exact absurd ⟨c₁, hc₁, (hthread c₁ hc₁).mp hsame⟩ hnone
        · refine hs.unique c₁ hc₁ c₂ hc₂ ⟨hsame.type, hsame.orderId, fun u => ?_⟩
          have hu := hsame.members u
          rwa [hothers c₁.id (hfresh c₁ hc₁), hothers c₂.id (hfresh c₂ hc₂)] at hu

/-- **What doubles a thread**, step by step. -/
theorem ChatStep.oneThread_iff {site : ChatSite} (hstep : ChatStep site s s') (hl : Linked s)
    (hs : OneThread s) : OneThread s' ↔ CreatesNew site s := by
  cases hstep with
  | noop refused =>
    refine iff_of_true hs fun origin new hsite hok => ?_
    obtain ⟨db', hrun⟩ := hok
    exact absurd hrun (refused origin new hsite db')
  | creates origin new hcreate hne hchecked =>
    rw [(createConversation_ok hcreate).oneThread_iff hl hs hne]
    constructor
    · intro hnone origin' new' hsite _
      cases hsite
      exact hnone
    · exact fun hnew => hnew origin new rfl ⟨s', hcreate⟩
  | sends m hnew hfound =>
    refine iff_of_true (OneThread.stay (.sends s m _) hs) ?_
    intro origin new hsite
    cases hsite
  | reads id now hfound =>
    refine iff_of_true (OneThread.stay (.reads s id now) hs) ?_
    intro origin new hsite
    cases hsite

/-! ## What a call has looked for -/

section

variable {t : StepRecord chatMachine} {new new' : NewConversation} {h : List (StepRecord chatMachine)} {me : Nat}
  {sub : String} {dto : FindOrCreateConversationDto} {site : ChatSite}

/-- The step has looked for the conversation, and there was none. -/
def LooksFor (t : StepRecord chatMachine) (new : NewConversation) : Prop :=
  t.site = .findConversation new.type new.orderId new.first.userId new.second.userId ∧ t.post = t.pre ∧
    existingConversation t.pre new.type new.orderId new.first.userId new.second.userId = none

/-- A call creates what it has looked for, and nothing else before. -/
def lookupContract : Contract chatMachine where
  rely _ _ := True
  guar h site _ _ := ∀ origin new, site = .createConversation origin new →
    (∃ t ∈ h, LooksFor t new) ∧ ∀ t ∈ h, t.site.creates = false

/-- The statements that create nothing. -/
abbrev nonCreating : Contract chatMachine := sitesContract fun site => site.creates = false

theorem lookupContract_quiet (h : List (StepRecord chatMachine)) (site : ChatSite) (s s' : ChatDb)
    (hsite : site.creates = false) : lookupContract.guar h site s s' := by
  rintro origin new rfl
  cases hsite

theorem free_lookup {α : Type} {p : ChatHandler α} (hp : Free nonCreating p) : Free lookupContract p :=
  fun h s => (hp h s).mono (fun _ _ _ => trivial) lookupContract_quiet fun _ _ _ hQ => hQ

/-- The transaction that follows an empty look-up, with statements in between that create nothing. -/
theorem createConversation_looks {origin : Origin} (hlook : ∃ t ∈ h, LooksFor t new)
    (hquiet : ∀ t ∈ h, t.site.creates = false) :
    Sat lookupContract anyPost (await (.createConversation origin new) fun _ => createConversation new) h s := by
  have hguar : ∀ s s', lookupContract.guar h (.createConversation origin new) s s' := by
    rintro _ _ _ _ ⟨⟩
    exact ⟨hlook, hquiet⟩
  exact sat_await fun s' _ _ => ⟨fun _ _ => ⟨hguar _ _, trivial⟩, fun _ _ _ => ⟨hguar _ _, trivial⟩⟩

theorem openConversation_looks {caller peer : UserId} (ht : t ∈ h)
    (hsite : t.site = .findConversation dto.type dto.orderId caller peer) (hsame : t.post = t.pre)
    (hnone : existingConversation t.pre dto.type dto.orderId caller peer = none)
    (hquiet : ∀ t ∈ h, t.site.creates = false) :
    Sat lookupContract anyPost (openConversation me dto caller peer) h s := by
  have hroles : ∀ u isCaller, Free nonCreating (resolveRole u dto.type isCaller) :=
    fun _ _ => resolveRole_free fun _ _ => rfl
  -- the two roles are read between the look-up and the transaction
  refine sat_sites_bind (hroles _ _) lookupContract_quiet fun callerRole added₁ s hadded₁ => ?_
  refine sat_sites_bind (hroles _ _) lookupContract_quiet fun peerRole added₂ s hadded₂ => ?_
  refine sat_bind_free (createConversation_looks ⟨t, ?_, hsite, hsame, hnone⟩ fun t' ht' => ?_)
    fun _ => free_pure
  · exact List.mem_append_right _ (List.mem_append_right _ ht)
  · rcases List.mem_append.mp ht' with hnew | hold
    · exact hadded₂ t' hnew
    rcases List.mem_append.mp hold with hnew | hold
    · exact hadded₁ t' hnew
    · exact hquiet t' hold

theorem findOrCreate_looks : Sat lookupContract anyPost (findOrCreate me sub dto) [] s := by
  refine sat_read_bind fun s₁ _ => ⟨lookupContract_quiet _ _ _ _ rfl, ?_⟩
  refine sat_orThrow_bind (fun _ => trivial) fun caller _ => sat_throwIf_bind (fun _ => trivial) fun _ => ?_
  have hpeer : Free nonCreating (resolvePeer caller dto) := resolvePeer_free fun _ _ => rfl
  refine sat_sites_bind hpeer lookupContract_quiet fun peer added s hadded => ?_
  refine sat_throwIf_bind (fun _ => trivial) fun _ => ?_
  refine sat_read_bind fun s₂ _ => ⟨lookupContract_quiet _ _ _ _ rfl, ?_⟩
  refine sat_orThrow_bind (fun _ => trivial) fun peer _ => ?_
  refine sat_read_bind fun s₃ _ => ⟨lookupContract_quiet _ _ _ _ rfl, ?_⟩
  split
  · trivial
  · -- the look-up is the last step so far, and none of the others creates anything
    rename_i hnone
    refine openConversation_looks (List.mem_cons_self ..) rfl rfl hnone fun t ht => ?_
    rcases List.mem_cons.mp ht with rfl | ht
    · rfl
    rcases List.mem_cons.mp ht with rfl | ht
    · rfl
    rcases List.mem_append.mp ht with hnew | ht
    · exact hadded t hnew
    · rw [List.mem_singleton.mp ht]
      rfl

/-- The other look-up is for the two users, whoever else is in the conversation. -/
theorem existing_of_sellerDriver {db : ChatDb} {o : OrderId} {seller driver : UserId}
    (hnone : sellerDriverConversation db o seller driver = none) :
    existingConversation db .sellerDriver (some (.ulid o)) seller driver = none := by
  rw [existing_iff]
  rintro ⟨c, hc, htype, horder, hmembers⟩
  refine List.find?_eq_none.mp hnone c hc ?_
  have hpinned : c.orderId = some o :=
    Option.map_injective (fun _ _ h => IdText.ulid.inj h) (horder.trans rfl)
  simp [htype, hpinned, (hmembers seller).mpr (.inl rfl), (hmembers driver).mpr (.inr rfl)]

theorem ensureSellerDriverConversation_looks {o : OrderId} {driver : UserId} :
    Sat lookupContract anyPost (ensureSellerDriverConversation me o driver) [] s := by
  refine sat_tryCatch (Sat.post (Q := anyPost) ?_ fun h r s _ => ?_)
  · refine sat_read_bind fun s₁ _ => ⟨lookupContract_quiet _ _ _ _ rfl, ?_⟩
    split
    · trivial
    · refine sat_read_bind fun s₂ _ => ⟨lookupContract_quiet _ _ _ _ rfl, ?_⟩
      split
      · trivial
      · rename_i hnone
        refine sat_bind_free (createConversation_looks ⟨_, List.mem_cons_self .., rfl, rfl, ?_⟩ fun t ht => ?_)
          fun _ => free_pure
        · exact existing_of_sellerDriver hnone
        · rcases List.mem_cons.mp ht with rfl | ht
          · rfl
          · rw [List.mem_singleton.mp ht]
            rfl
  · cases r with
    | ok a => trivial
    | error e => trivial

/-- **A call creates a conversation only after it has looked for it in vain.** -/
theorem chatHandle_looks (me : Nat) (c : ChatCall) (s : ChatDb) :
    Sat lookupContract anyPost (chatHandle me c) [] s := by
  cases c with
  | findOrCreate sub dto => exact sat_bind_free findOrCreate_looks fun _ => free_pure
  | ensureSellerDriverConversation o driver =>
    exact sat_bind_free ensureSellerDriverConversation_looks fun _ => free_pure
  | send sub c content type =>
    refine sat_bind_free (free_lookup (send_free_of (fun _ _ _ => ChatSite.creates_of_writes) fun _ _ _ => ?_) _ _)
      fun _ => free_pure
    exact free_await_site rfl
  | markRead sub c =>
    refine sat_bind_free (free_lookup (free_bind (assertParticipant_free fun _ _ => rfl) fun m => ?_) _ _)
      fun _ => free_pure
    exact free_bind (free_read fun _ _ => rfl) fun _ => free_await_site rfl

/-! ## Where a thread comes from -/

/-- There is a conversation of its type and order between its two users. -/
def ChatDb.HasThread (db : ChatDb) (new : NewConversation) : Prop :=
  ∃ c ∈ db.conversations.rows, c.type = new.type ∧ c.orderId.map IdText.ulid = new.orderId ∧
    ∀ u, u ∈ db.members c.id ↔ u = new.first.userId ∨ u = new.second.userId

/-- Two calls open the same thread: of one type, about one order or none, between the same users. -/
structure NewConversation.SameThread (new new' : NewConversation) : Prop where
  type : new.type = new'.type
  orderId : new.orderId = new'.orderId
  users : ∀ u, (u = new.first.userId ∨ u = new.second.userId) ↔ (u = new'.first.userId ∨ u = new'.second.userId)

/-- The row of a conversation that was just created is the thread of what is looked for. -/
theorem Created.thread_iff (hcreated : Created new' s s') (hl : Linked s) :
    ((new'.row s.now).type = new.type ∧ (new'.row s.now).orderId.map IdText.ulid = new.orderId ∧
      ∀ u, u ∈ s'.members new'.id ↔ u = new.first.userId ∨ u = new.second.userId) ↔ new'.SameThread new := by
  have hpair := hcreated.pair hl
  rw [hcreated.row_orderId]
  constructor
  · rintro ⟨htype, hsame, hmembers⟩
    exact ⟨htype, hsame, fun u => (hpair u).symm.trans (hmembers u)⟩
  · rintro ⟨htype, hsame, husers⟩
    exact ⟨htype, hsame, fun u => (hpair u).trans (husers u)⟩

/-- A conversation that was there before another was created. -/
theorem Created.old_thread (hcreated : Created new' s s') (hl : Linked s) {c : Conversation}
    (hc : c ∈ s.conversations.rows) : s'.members c.id = s.members c.id :=
  (members_created hcreated hl).2 c.id
    (Table.find?_eq_none.mp (Table.insert?_eq_some.mp hcreated.conversations).1 c hc)

/-- Rows written in place come from rows of the same thread. -/
theorem ChatDb.HasThread.before (hplace : InPlace s s') (hthread : s'.HasThread new) : s.HasThread new := by
  obtain ⟨c', hc', htype, horder, hmembers⟩ := hthread
  obtain ⟨c, hc, hid, htype', horder'⟩ := hplace.conversations c' hc'
  refine ⟨c, hc, htype'.trans htype, by rw [horder', horder], fun u => ?_⟩
  rw [hid, ← hplace.members]
  exact hmembers u

/-- A thread was there before the step, or the step creates it. -/
theorem ChatStep.thread_back (hstep : ChatStep site s s') (hl : Linked s) (hthread : s'.HasThread new) :
    s.HasThread new ∨ ∃ origin new', site = .createConversation origin new' ∧
      createConversation new' s = .ok ((), s') ∧ new'.SameThread new := by
  cases hstep with
  | noop refused => exact .inl hthread
  | creates origin new' hcreate hne hchecked =>
    have hcreated := createConversation_ok hcreate
    obtain ⟨c, hc, hsame⟩ := hthread
    rw [hcreated.rows.1] at hc
    rcases List.mem_cons.mp hc with rfl | hc
    · exact .inr ⟨origin, new', rfl, hcreate, (hcreated.thread_iff hl).mp hsame⟩
    · rw [hcreated.old_thread hl hc] at hsame
      exact .inl ⟨c, hc, hsame⟩
  | sends m hnew hfound => exact .inl (hthread.before (.sends s m _))
  | reads id now hfound => exact .inl (hthread.before (.reads s id now))

/-- Conversations stay, with their members. -/
structure ThreadsStay (s s' : ChatDb) : Prop where
  conversations : s.conversations.Carries (fun c c' => c'.type = c.type ∧ c'.orderId = c.orderId) s'.conversations
  members : ∀ c ∈ s.conversations.rows, s'.members c.id = s.members c.id

theorem ChatDb.HasThread.stay (hstay : ThreadsStay s s') (hthread : s.HasThread new) : s'.HasThread new := by
  obtain ⟨c, hc, htype, horder, hmembers⟩ := hthread
  obtain ⟨c', hc', htype', horder'⟩ := hstay.conversations c hc
  have hid : c'.id = c.id := Table.key_of_find? hc'
  refine ⟨c', Table.mem_of_find? hc', htype'.trans htype, by rw [horder', horder], fun u => ?_⟩
  rw [hid, hstay.members c hc]
  exact hmembers u

theorem ThreadsStay.inPlace (hplace : InPlace s s')
    (hcarries : s.conversations.Carries (fun c c' => c'.type = c.type ∧ c'.orderId = c.orderId) s'.conversations) :
    ThreadsStay s s' :=
  ⟨hcarries, fun c _ => hplace.members c.id⟩

theorem ChatStep.threadsStay (hstep : ChatStep site s s') (hl : Linked s) : ThreadsStay s s' := by
  have hrefl : ∀ c : Conversation, c.type = c.type ∧ c.orderId = c.orderId := fun _ => ⟨rfl, rfl⟩
  cases hstep with
  | noop refused => exact ⟨.refl hrefl _, fun _ _ => rfl⟩
  | creates origin new' hcreate hne hchecked =>
    have hcreated := createConversation_ok hcreate
    exact ⟨Table.carries_insert hrefl hcreated.conversations, fun c hc => hcreated.old_thread hl hc⟩
  | sends m hnew hfound =>
    refine .inPlace (.sends s m _) (Table.carries_update hrefl (fun _ => ⟨rfl, rfl⟩) ?_)
    exact fun _ => rfl
  | reads id now hfound => exact .inPlace (.reads s id now) (.refl hrefl _)

theorem ThreadsStay.elsewhere (db : Db) (s : ChatDb) : ThreadsStay s (applyElsewhere db s) := by
  refine .inPlace (.elsewhere db s) ?_
  unfold applyElsewhere
  split
  · exact .refl (fun _ => ⟨rfl, rfl⟩) _
  · exact .refl (fun _ => ⟨rfl, rfl⟩) _

end

/-! ## Runs -/

/-- The step creates the conversation. -/
def Opens (e : Entry chatMachine) (new : NewConversation) : Prop :=
  (∃ origin, e.site = .createConversation origin new) ∧ createConversation new e.pre = .ok ((), e.post)

/-- A call was overtaken: it has looked for a conversation and found none, then another call has
created one of the same type and order between the same two users, and then it creates its own. -/
def Overtaken (trace : List (Entry chatMachine)) : Prop :=
  ∃ later e between look earlier new, trace = later ++ e :: (between ++ look :: earlier) ∧ Opens e new ∧
    look.thread = e.thread ∧ LooksFor look.toStepRecord new ∧
    ∃ e' ∈ between, e'.thread ≠ e.thread ∧ ∃ new', Opens e' new' ∧ new'.SameThread new

theorem OneThread.silent (db : Db) : OneThread (ChatDb.silent db) :=
  ⟨fun _ hc => absurd hc List.not_mem_nil, fun _ hc => absurd hc List.not_mem_nil⟩

/-- What it takes of the states in which conversations are created. -/
theorem oneThread_steps_iff (db : Db) (actions : List (Pool.Action chatService)) :
    Pool.Always OneThread (ChatDb.silent db) actions ↔
      (poolRun (ChatDb.silent db) actions).Steps CreatesNew := by
  refine Pool.always_iff (OneThread.silent db) (fun db s hs => hs.stay (.elsewhere db s)) actions
    fun e he hpre => ?_
  exact (chat_step _ actions e he).oneThread_iff (((Linked.silent db).pool actions).2 e he) hpre

section

variable {db : Db} {actions : List (Pool.Action chatService)} {later between earlier : List (Entry chatMachine)}
  {e look : Entry chatMachine} {new new' : NewConversation}

/-- A thread that another call has created since the look-up is still there. -/
theorem overtaken_finds (hsplit : (poolRun (ChatDb.silent db) actions).trace = later ++ e :: (between ++ look :: earlier))
    {e' : Entry chatMachine} (he' : e' ∈ between) (hopens : Opens e' new') (hsame : new'.SameThread new) :
    existingConversation e.pre new.type new.orderId new.first.userId new.second.userId ≠ none := by
  have hlinked := ((Linked.silent db).pool actions).2
  have hchain : Pool.Chain (fun s s' => ChatDb.HasThread s new → ChatDb.HasThread s' new) (ChatDb.silent db)
      (poolRun (ChatDb.silent db) actions) :=
    Pool.chain (fun _ h => h) (fun _ _ _ hab hbc h => hbc (hab h)) (fun db s h => h.stay (.elsewhere db s))
      actions fun e he h => h.stay ((chat_step _ actions e he).threadsStay (hlinked e he))
  have hmem : e' ∈ between ++ look :: earlier := List.mem_append_left _ he'
  have hcreated := createConversation_ok hopens.2
  have hthread : e'.post.HasThread new := by
    refine ⟨new'.row e'.pre.now, ?_, (hcreated.thread_iff (hlinked e' ?_)).mpr hsame⟩
    · rw [hcreated.rows.1]
      exact List.mem_cons_self ..
    · rw [hsplit]
      exact List.mem_append_right _ (List.mem_cons_of_mem _ hmem)
  intro hnone
  exact existing_iff.mp hnone (hchain.between later e _ hsplit e' hmem hthread)

/-- A conversation that is created although it is there: it was created since the look-up. -/
theorem creates_overtaken (hsplit : (poolRun (ChatDb.silent db) actions).trace = later ++ e :: earlier)
    (hopens : Opens e new) (hthread : e.pre.HasThread new) :
    Overtaken (poolRun (ChatDb.silent db) actions).trace := by
  obtain ⟨origin, hsite⟩ := hopens.1
  obtain ⟨c, -, hguar⟩ := Pool.own_step (fun _ _ _ _ => trivial) (fun j c s => chatHandle_looks j c s) hsplit
  obtain ⟨⟨t, ht, hlooks⟩, hquiet⟩ := hguar origin new hsite
  obtain ⟨look, hlook, hthreadOf, rfl⟩ := Pool.mem_of_ownSteps ht
  obtain ⟨between, before, rfl⟩ := List.append_of_mem hlook
  -- the look-up has found none, so a step since then has created it
  have hsince := Pool.holds_until (P := fun s : ChatDb => ¬s.HasThread new)
    (E := fun e' => ∃ new', Opens e' new' ∧ new'.SameThread new)
    (fun db s hnone h => hnone (h.before (.elsewhere db s))) actions ?_ hsplit ?_
  · rcases hsince with hnone | ⟨e', he', new', hopens', hsame⟩
    · exact absurd hthread hnone
    · refine ⟨later, e, between, look, before, new, hsplit, hopens, hthreadOf, hlooks, e', he', ?_, new',
        hopens', hsame⟩
      -- the call itself has created nothing before
      intro hown
      have hmem : e'.toStepRecord ∈ Pool.ownSteps e.thread (between ++ look :: before) :=
        List.mem_map.mpr ⟨e', List.mem_filter.mpr ⟨List.mem_append_left _ he', decide_eq_true hown⟩, rfl⟩
      have hfalse := hquiet _ hmem
      obtain ⟨⟨origin', hsite'⟩, -⟩ := hopens'
      rw [hsite'] at hfalse
      cases hfalse
  · intro e' he' hnone
    by_cases hnow : ChatDb.HasThread e'.post new
    · have hlinked := ((Linked.silent db).pool actions).2 e' he'
      rcases (chat_step _ actions e' he').thread_back hlinked hnow with hold | ⟨origin', new', hsite', hok, hsame⟩
      · exact absurd hold hnone
      · exact .inr ⟨new', ⟨⟨origin', hsite'⟩, hok⟩, hsame⟩
    · exact .inl hnow
  · obtain ⟨-, hsame, hempty⟩ := hlooks
    rw [hsame]
    exact existing_iff.mp hempty

end

/-- **One thread per pair, and what it takes.** In every interleaving of calls that find,
create, write and read conversations, with the other services working meanwhile, every
conversation has exactly two different members and no other conversation has its type,
order and members, in every state, if and only if no call is overtaken between its look-up
and its transaction. -/
theorem one_thread_iff (db : Db) (actions : List (Pool.Action chatService)) :
    Pool.Always OneThread (ChatDb.silent db) actions ↔
      ¬Overtaken (poolRun (ChatDb.silent db) actions).trace := by
  rw [oneThread_steps_iff]
  constructor
  · rintro hnew ⟨later, e, between, look, earlier, new, hsplit, ⟨⟨origin, hsite⟩, hok⟩, -, -, e', he', -, new',
      hopens', hsame⟩
    have he : e ∈ (poolRun (ChatDb.silent db) actions).trace := by
      rw [hsplit]
      simp
    exact overtaken_finds hsplit he' hopens' hsame (hnew e he origin new hsite ⟨_, hok⟩)
  · intro hfree e he origin new hsite hok
    obtain ⟨later, earlier, hsplit⟩ := List.append_of_mem he
    rw [existing_iff]
    intro hthread
    refine hfree (creates_overtaken hsplit ⟨⟨origin, hsite⟩, ?_⟩ hthread)
    -- a transaction that goes through is the step
    have hstep := chat_step _ actions e he
    rw [hsite] at hstep
    generalize hpost : e.post = s' at hstep
    cases hstep with
    | noop refused =>
      obtain ⟨s₁, hrun⟩ := hok
      exact absurd hrun (refused origin new rfl s₁)
    | creates _ _ hcreate hne hchecked => exact hcreate

/-- Nobody is overtaken where only one conversation is ever created. -/
theorem Overtaken.creates_twice {trace : List (Entry chatMachine)} (hover : Overtaken trace) :
    2 ≤ trace.countP fun e => ChatSite.creates e.site := by
  obtain ⟨later, e, between, look, earlier, new, rfl, ⟨⟨origin, hsite⟩, -⟩, -, -, e', he', -, new',
    ⟨⟨origin', hsite'⟩, -⟩, -⟩ := hover
  obtain ⟨after, before, rfl⟩ := List.append_of_mem he'
  have hfirst : ChatSite.creates e.site = true := by rw [hsite]; rfl
  have hsecond : ChatSite.creates e'.site = true := by rw [hsite']; rfl
  simp only [List.countP_append, List.countP_cons, hfirst, hsecond, if_true]
  omega

/-- The call opens the chat of order 130. -/
def openChat (sub : String) : Pool.Action chatService :=
  .arrive (.findOrCreate sub ⟨.buyerSeller, none, some (.ulid ⟨0, 130⟩), none⟩)

/-- The next steps of a call. -/
def chatGoesOn (j steps : Nat) : List (Pool.Action chatService) := List.replicate steps (.run j ⟨true, "", ""⟩)

/-- The buyer opens the chat of the order, and then the seller does. -/
def openInTurn : List (Pool.Action chatService) :=
  openChat "buyer" :: chatGoesOn 0 7 ++ openChat "seller" :: chatGoesOn 1 4

/-- The seller finds what the buyer has created. -/
theorem thread_found :
    Pool.Always OneThread (ChatDb.silent orderTown) openInTurn ∧
      (poolRun (ChatDb.silent orderTown) openInTurn).AllOver ∧
      (poolRun (ChatDb.silent orderTown) openInTurn).state.conversations.rows.map Conversation.id = [⟨0, 0⟩] := by
  have hfree : ¬Overtaken (poolRun (ChatDb.silent orderTown) openInTurn).trace := by
    intro hover
    have htwice := hover.creates_twice
    revert htwice
    decide +kernel
  exact ⟨(one_thread_iff orderTown openInTurn).mpr hfree, by decide +kernel, by decide +kernel⟩

/-- Both parties of the order open its chat, each before the other has created it. -/
def bothOpen : List (Pool.Action chatService) :=
  [openChat "buyer", openChat "seller"] ++ chatGoesOn 0 6 ++ chatGoesOn 1 6 ++ chatGoesOn 0 1 ++ chatGoesOn 1 1

/-- **Two threads for one pair.** -/
theorem thread_doubled : ¬OneThread (poolRun (ChatDb.silent orderTown) bothOpen).state := by
  have hunique : ∀ db : ChatDb, OneThread db → ∀ c ∈ db.conversations.rows,
      ∀ c' ∈ db.conversations.rows, c.type = c'.type → c.orderId = c'.orderId →
      (∀ u ∈ db.members c.id, u ∈ db.members c'.id) → (∀ u ∈ db.members c'.id, u ∈ db.members c.id) →
      c.id = c'.id :=
    fun db hdb c hc c' hc' htype horder hle hge =>
      hdb.unique c hc c' hc' ⟨htype, horder, fun u => ⟨hle u, hge u⟩⟩
  intro h
  have hall := hunique _ h
  revert hall
  decide +kernel

end IncaCook
