import Mathlib.Data.Prod.Lex
import Mathlib.Data.String.Basic
import Mathlib.Data.Sum.Order
import IncaCook.Model.System
import IncaCook.Steps.Chat

/-!
# Reading a conversation back

`listMessages` pages backwards through the ids of a conversation. Between two requests of a
reader others may send; `Continues` says what the reader can tell of it, which is that new
messages have come.

Main results:

* `send_continues`: a call of `send`, however it ends, adds at most its own message;
* `listMessages_result`: a participant is given the page behind the cursor;
* `history_read_back`: the pages are the messages that were there at the first request, each
  of them once and the newest first.
-/

namespace IncaCook

open Prog Conversations Messaging Cursors

variable {s s' s'' : ChatDb} {c : ConversationId} {u : UserId} {sub : String} {me : Nat}
  {new : Message → Prop}

/-! ## What the reader sees of the others -/

/-- The messages of a conversation. -/
def ChatDb.history (db : ChatDb) (c : ConversationId) : List Message :=
  db.messages.rows.filter fun m => m.conversationId = c

/-- The user behind the token takes part in the conversation. -/
def ChatDb.takesPart (db : ChatDb) (sub : String) (c : ConversationId) : Prop :=
  ∃ u, db.userIdOf sub = some u ∧ (db.participantOf c u).isSome = true ∧
    (db.conversations.find? c).isSome = true

/-- The role of a user in a conversation. -/
def ChatDb.roleOf (db : ChatDb) (c : ConversationId) (u : UserId) : Option ParticipantRole :=
  (db.participantOf c u).map ConversationParticipant.role

/-- Messages of a kind have been added, and besides them nothing has changed that a reader
of messages is shown. -/
structure Continues (new : Message → Prop) (s s' : ChatDb) : Prop where
  toDb : s'.toDb = s.toDb
  conversations : ∀ c, (s'.conversations.find? c).isSome = (s.conversations.find? c).isSome
  roles : ∀ c u, s'.roleOf c u = s.roleOf c u
  messages : ∃ fresh, s'.messages.rows = fresh ++ s.messages.rows ∧ ∀ m ∈ fresh, new m

theorem Continues.refl (s : ChatDb) : Continues new s s :=
  ⟨rfl, fun _ => rfl, fun _ _ => rfl, [], rfl, fun _ hm => absurd hm List.not_mem_nil⟩

theorem Continues.trans (h₁ : Continues new s s') (h₂ : Continues new s' s'') : Continues new s s'' := by
  obtain ⟨fresh₁, hrows₁, hnew₁⟩ := h₁.messages
  obtain ⟨fresh₂, hrows₂, hnew₂⟩ := h₂.messages
  refine ⟨h₂.toDb.trans h₁.toDb, fun c => (h₂.conversations c).trans (h₁.conversations c),
    fun c u => (h₂.roles c u).trans (h₁.roles c u), fresh₂ ++ fresh₁, ?_, ?_⟩
  · rw [hrows₂, hrows₁, List.append_assoc]
  · intro m hm
    exact (List.mem_append.mp hm).elim (hnew₂ m) (hnew₁ m)

theorem Continues.mono {new' : Message → Prop} (h : Continues new s s') (hnew : ∀ m, new m → new' m) :
    Continues new' s s' := by
  obtain ⟨fresh, hrows, hfresh⟩ := h.messages
  exact ⟨h.toDb, h.conversations, h.roles, fresh, hrows, fun m hm => hnew m (hfresh m hm)⟩

theorem Continues.takesPart (h : Continues new s s') (hpart : s.takesPart sub c) : s'.takesPart sub c := by
  obtain ⟨u, hu, hp, hc⟩ := hpart
  have hrole : (s'.participantOf c u).isSome = (s.participantOf c u).isSome := by
    have hroles := congrArg Option.isSome (h.roles c u)
    rwa [ChatDb.roleOf, ChatDb.roleOf, Option.isSome_map, Option.isSome_map] at hroles
  exact ⟨u, by rw [h.toDb, hu], hrole.trans hp, (h.conversations c).trans hc⟩

theorem Continues.withSenderRole (h : Continues new s s') (c : ConversationId) :
    withSenderRole s' c = withSenderRole s c := by
  funext m
  have hrole := h.roles c m.senderId
  rw [ChatDb.roleOf, ChatDb.roleOf] at hrole
  rw [Messaging.withSenderRole, hrole, Messaging.withSenderRole]

/-! ## A call of `send` -/

/-- Nobody else is at work, and a step adds at most messages of a kind. -/
def continuesContract (new : Message → Prop) : Contract chatMachine where
  rely s s' := s = s'
  guar _ _ s s' := Continues new s s'

theorem persist_continues {m : Message} {answer : Answer} {x : Unit} (hm : new m)
    (hrun : persist m answer s = .ok (x, s')) : Continues new s s' := by
  obtain ⟨messages, row, hinsert, hrow, rfl⟩ := persist_ok hrun
  refine ⟨rfl, fun c => ?_, fun c u => ?_, [m], (Table.insert?_eq_some.mp hinsert).2, ?_⟩
  · rw [Table.find?_update]
    split
    · rw [Option.isSome_map]
    · rfl
  · -- the counters of the others change, their roles do not
    simp only [ChatDb.roleOf, ChatDb.participantOf, Table.updateMany, List.find?_map, Option.map_map]
    congr 1
    · funext p
      dsimp only [Function.comp_apply]
      split <;> rfl
    · congr 1
      funext p
      dsimp only [Function.comp_apply]
      split <;> rfl
  · intro m' hm'
    exact List.mem_singleton.mp hm' ▸ hm

/-- A call of `send`, with the answers of the database and of what is told of the message. -/
structure SendCall where
  me : Nat
  supabaseId : String
  conversationId : ConversationId
  content : JsString
  messageType : MessageType
  answers : Nat → Answer

/-- The state after the call, which may have failed. -/
def SendCall.run (db : ChatDb) (call : SendCall) : ChatDb :=
  ((send call.me call.supabaseId call.conversationId call.content call.messageType).exec
    call.answers db).state

/-- The message that the call may add. -/
def SendCall.Sends (call : SendCall) (m : Message) : Prop :=
  m.id = generateUlid call.me 0 ∧ m.conversationId = call.conversationId

/-- **A call of `send`** adds its message, or nothing. -/
theorem send_continues (db : ChatDb) (call : SendCall) : Continues call.Sends db (call.run db) := by
  have hfree : Free (continuesContract call.Sends)
      (send call.me call.supabaseId call.conversationId call.content call.messageType) := by
    refine send_free_of (fun _ _ s _ => .refl s) fun m hid hc => ?_
    exact free_await (fun _ s => .refl s) fun _ _ _ _ _ hrun => persist_continues ⟨hid, hc⟩ hrun
  -- step by step, and nobody else in between
  have hsat := hfree.leads (K := Continues call.Sends) .refl (fun _ _ _ => Continues.trans)
    (fun _ _ => id) (fun _ _ _ _ hcont => hcont) (h := []) (s := db)
  exact (hsat.exec (fun _ => rfl) call.answers).2

/-- The calls one after another. -/
def afterSends (db : ChatDb) (calls : List SendCall) : ChatDb := calls.foldl SendCall.run db

theorem afterSends_continues {db : ChatDb} {calls : List SendCall}
    (hnew : ∀ call ∈ calls, ∀ m, call.Sends m → new m) : Continues new db (afterSends db calls) := by
  induction calls generalizing db with
  | nil => exact .refl db
  | cons call calls ih =>
    have hfirst := (send_continues db call).mono (hnew call List.mem_cons_self)
    exact hfirst.trans (ih fun call' hcall' => hnew call' (List.mem_cons_of_mem _ hcall'))

/-- The state that the `n`-th request finds; `sends n` are the calls between it and the next. -/
def stateAt (db : ChatDb) (sends : Nat → List SendCall) : Nat → ChatDb
  | 0 => db
  | n + 1 => afterSends (stateAt db sends n) (sends n)

theorem stateAt_continues {db : ChatDb} {sends : Nat → List SendCall}
    (hnew : ∀ n, ∀ call ∈ sends n, ∀ m, call.Sends m → new m) (n : Nat) :
    Continues new db (stateAt db sends n) := by
  induction n with
  | zero => exact .refl db
  | succ n ih => exact ih.trans (afterSends_continues (hnew n))

/-! ## A request -/

/-- The number of rows of a full page. -/
def pageSize (limit : Option Nat) : Nat := min (limit.getD 50) 200

/-- The text of a message's id. -/
def idText (m : PersistedMessage) : IdText := .ulid m.id

/-- The history as the reader is shown it. -/
def ChatDb.shown (db : ChatDb) (c : ConversationId) : List PersistedMessage :=
  (db.history c).map (withSenderRole db c)

theorem shown_nodup (db : ChatDb) (c : ConversationId) : ((db.shown c).map idText).Nodup := by
  have hkeys : ((db.history c).map Message.id).Nodup :=
    db.messages.nodup.sublist (List.filter_sublist.map _)
  have htexts : (db.shown c).map idText = ((db.history c).map Message.id).map IdText.ulid := by
    rw [ChatDb.shown, List.map_map, List.map_map]
    rfl
  exact htexts ▸ hkeys.map fun _ _ heq => IdText.ulid.inj heq

section

-- how the database orders the texts of an id column
variable [LinearOrder IdText]

theorem shown_page (db : ChatDb) (c : ConversationId) (limit : Nat) (before : Option IdText) :
    page idText limit before (db.shown c) =
      ((descending (fun m => IdText.ulid m.id) (db.messages.rows.filter fun m =>
        m.conversationId = c && before.all fun id => IdText.ulid m.id < id)).take limit).map
        (withSenderRole db c) := by
  rw [ChatDb.shown, page_map, page, ChatDb.history, List.filter_filter]
  congr 4
  funext m
  exact Bool.and_comm ..

/-- **A participant is given the page** behind the cursor. -/
theorem listMessages_returns {db : ChatDb} {limit : Option Nat} {before : Option IdText} {w : Nat → Answer}
    (hpart : db.takesPart sub c) (hbefore : ∀ id ∈ before, id.truthy = true) :
    (listMessages sub c ⟨limit, before⟩).Returns w db
      (page idText (pageSize limit) before (db.shown c)) := by
  obtain ⟨u, hu, hp, hc⟩ := hpart
  obtain ⟨p, hp⟩ := Option.isSome_iff_exists.mp hp
  obtain ⟨row, hrow⟩ := Option.isSome_iff_exists.mp hc
  have hof : p.conversationId = c := by
    have hfound := List.find?_some hp
    simp only [Bool.and_eq_true, decide_eq_true_eq] at hfound
    exact hfound.1
  have hcursor : before.filter IdText.truthy = before := by
    cases before with
    | none => rfl
    | some id => exact if_pos (hbefore id rfl)
  rw [shown_page, listMessages, assertParticipant]
  simp only [bind_assoc, returns_read_bind, returns_orThrow_bind]
  refine ⟨u, hu, ⟨u, p.id, row.id, row.type⟩, ?_, ?_⟩
  · rw [hp, Option.bind_some, hof, hrow]
    rfl
  · rw [hcursor]
    rfl

/-! ## The whole history -/

/-- The reader's requests; each is served alone, and the others send in between. -/
def requests (db : ChatDb) (sends : Nat → List SendCall) (sub : String) (c : ConversationId)
    (limit : Option Nat) (w : Nat → Answer) (n : Nat) (before : Option IdText) :
    Except Err (List PersistedMessage) :=
  ((listMessages sub c ⟨limit, before⟩).exec w (stateAt db sends n)).result

/-- The messages that come in between lie above those that were there at the first request. -/
theorem shown_growsAbove {db : ChatDb} {sends : Nat → List SendCall}
    (hlarger : ∀ n, ∀ call ∈ sends n, call.conversationId = c →
      ∀ m ∈ db.history c, IdText.ulid m.id < .ulid (generateUlid call.me 0)) :
    GrowsAbove idText fun n => (stateAt db sends n).shown c := by
  intro n
  have hcont : Continues (fun m => m.conversationId = c → ∀ x ∈ db.history c, IdText.ulid x.id < .ulid m.id)
      db (stateAt db sends n) :=
    stateAt_continues (fun n call hcall m hm hc => hm.1 ▸ hlarger n call hcall (hm.2 ▸ hc)) n
  obtain ⟨fresh, hrows, hnew⟩ := hcont.messages
  -- the new rows of this conversation, shown with the roles that the old ones have
  refine ⟨(fresh.filter fun m => m.conversationId = c).map (withSenderRole db c), ?_, ?_⟩
  · have hshown : (stateAt db sends n).shown c =
        (fresh.filter fun m => m.conversationId = c).map (withSenderRole db c) ++ db.shown c := by
      rw [ChatDb.shown, hcont.withSenderRole, ChatDb.history, hrows, List.filter_append, List.map_append,
        ← ChatDb.history, ← ChatDb.shown]
    show (db.shown c ++ _).Perm ((stateAt db sends n).shown c)
    rw [hshown]
    exact List.perm_append_comm
  · intro a ha b hb
    obtain ⟨m, hm, rfl⟩ := List.mem_map.mp ha
    obtain ⟨x, hx, rfl⟩ := List.mem_map.mp hb
    obtain ⟨hfresh, hc⟩ := List.mem_filter.mp hm
    exact hnew m hfresh (of_decide_eq_true hc) x hx

/-- **Message history pages are exact.** A participant who pages back through a conversation
while others send reaches a page that is not full, and has then read every message that was
there at the first request once, in strictly decreasing order of the ids. -/
theorem history_read_back {db : ChatDb} {sends : Nat → List SendCall} {limit : Option Nat}
    {w : Nat → Answer} {fuel : Nat} (hpart : db.takesPart sub c) (hlimit : ∀ l ∈ limit, 1 ≤ l)
    (hlarger : ∀ n, ∀ call ∈ sends n, call.conversationId = c →
      ∀ m ∈ db.history c, IdText.ulid m.id < .ulid (generateUlid call.me 0))
    (hfuel : (db.history c).length / pageSize limit < fuel) :
    ∃ pages, readPages idText (requests db sends sub c limit w) (pageSize limit) fuel 0 none =
        .ok (some pages) ∧
      pages.flatten.Perm (db.shown c) ∧
      pages.flatten.Pairwise fun a b => IdText.ulid b.id < IdText.ulid a.id := by
  have hsize : 1 ≤ pageSize limit := by
    cases limit with
    | none => decide
    | some l => exact le_min (hlimit l rfl) (by decide)
  have hrequest : ∀ n front, requests db sends sub c limit w n (cursorOf idText front) =
      .ok (page idText (pageSize limit) (cursorOf idText front) ((stateAt db sends n).shown c)) := by
    intro n front
    have hcont : Continues (fun _ => True) db (stateAt db sends n) :=
      stateAt_continues (fun _ _ _ _ _ => trivial) n
    refine listMessages_returns (hcont.takesPart hpart) ?_
    -- a cursor is the id of a message, never the empty text that counts as none
    intro id hid
    obtain ⟨m, -, rfl⟩ := Option.map_eq_some_iff.mp hid
    rfl
  have hfuel' : (db.shown c).length / pageSize limit < fuel := by
    rwa [ChatDb.shown, List.length_map]
  obtain ⟨pages, hread, hpages⟩ :=
    readPages_eq hsize hrequest (shown_growsAbove hlarger) (shown_nodup db c) hfuel'
  refine ⟨pages, hread, ?_, ?_⟩
  · rw [hpages]
    exact descending_perm ..
  · rw [hpages]
    exact descends_descending (shown_nodup db c)

end

/-! ## An order of the texts -/

/-- An id by the number of its call, and other texts after all ids. -/
def textCode : IdText → (ℕ ×ₗ ℕ) ⊕ₗ String
  | .ulid id => toLex (.inl (toLex (id.call, id.seq)))
  | .other text => toLex (.inr text)

theorem textCode_injective : Function.Injective textCode := by
  intro t t' heq
  cases t with
  | ulid id =>
    cases t' with
    | ulid id' =>
      have hpair : (id.call, id.seq) = (id'.call, id'.seq) := Sum.inl.inj heq
      cases id
      cases id'
      cases hpair
      rfl
    | other text => cases heq
  | other text =>
    cases t' with
    | ulid id => cases heq
    | other text' => exact congrArg _ (Sum.inr.inj heq)

abbrev numberedTexts : LinearOrder IdText := LinearOrder.lift' textCode textCode_injective

/-- A buyer and a seller who have exchanged two messages. -/
def twoMessages : ChatDb where
  toDb := smallTown
  conversations := ⟨[⟨⟨1, 0⟩, .buyerSeller, none, none, none, none, 0⟩], by decide⟩
  participants := ⟨[⟨⟨1, 1⟩, ⟨1, 0⟩, ⟨0, 100⟩, .buyer, 1, none, 0⟩,
    ⟨⟨1, 2⟩, ⟨1, 0⟩, ⟨0, 101⟩, .seller, 1, none, 0⟩], by decide⟩
  messages := ⟨[⟨⟨3, 0⟩, ⟨1, 0⟩, ⟨0, 101⟩, [72], .text, 0⟩, ⟨⟨2, 0⟩, ⟨1, 0⟩, ⟨0, 100⟩, [72], .text, 0⟩],
    by decide⟩

/-- The seller writes again before every request but the first. -/
def sellerWrites (n : Nat) : List SendCall :=
  [⟨n + 4, "seller", ⟨1, 0⟩, [72], .text, fun _ => ⟨true, "", ""⟩⟩]

theorem twoMessages_read_back :
    ∃ pages, readPages idText (@requests numberedTexts twoMessages sellerWrites "buyer" ⟨1, 0⟩ (some 1)
        fun _ => ⟨true, "", ""⟩) (pageSize (some 1)) 3 0 none = .ok (some pages) ∧
      pages.flatten.Perm (twoMessages.shown ⟨1, 0⟩) ∧
      pages.flatten.Pairwise fun a b => numberedTexts.lt (.ulid b.id) (.ulid a.id) := by
  have hpart : twoMessages.takesPart "buyer" ⟨1, 0⟩ := ⟨⟨0, 100⟩, by decide, by decide, by decide⟩
  have hlimit : ∀ l ∈ some 1, 1 ≤ l := by decide
  refine @history_read_back ⟨1, 0⟩ "buyer" numberedTexts twoMessages sellerWrites (some 1) _ 3 hpart
    hlimit ?_ ?_
  · intro n call hcall _ m hm
    obtain rfl := List.mem_singleton.mp hcall
    have hnumbers : ∀ m ∈ twoMessages.history ⟨1, 0⟩, m.id.call < 4 := by decide
    apply Sum.Lex.inl_lt_inl_iff.mpr
    refine Prod.Lex.toLex_lt_toLex.mpr (.inl ?_)
    exact (hnumbers m hm).trans_le (Nat.le_add_left 4 n)
  · decide

end IncaCook
