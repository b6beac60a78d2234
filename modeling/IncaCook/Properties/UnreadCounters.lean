import IncaCook.Steps.Chat

/-!
# Unread counters

Every participant has a counter of unread messages. A send increments the counters of the
others in the transaction that inserts the message, and `markRead` resets the caller's.
The counter is held against the log of the run: the messages that its steps have
committed (`posted`), and the `markRead` calls that were answered without an error.

Main results:

* `markRead_resets`: a `markRead` that succeeds has stored zero, and one that fails has
  changed nothing;
* `CountersAgree.step`: every step keeps the counters and the last message in agreement
  with the log;
* `unread_counters`: they agree after every interleaving, and a send that fails has changed
  nothing.
-/

namespace IncaCook

open Prog Conversations Messaging

variable {s s' : ChatDb} {h : List (StepRecord chatMachine)}

/-! ## The log -/

/-- The messages that the step commits. -/
def posted (e : Entry chatMachine) : List Message :=
  e.post.messages.rows.filter fun m => m ∉ e.pre.messages.rows

/-- The step is the update of a `markRead` of the participant, by a call that succeeds. -/
def marksRead (succeeds : Nat → Bool) (id : ParticipantId) (e : Entry chatMachine) : Bool :=
  e.site = .markRead id && succeeds e.thread

/-- The steps since the row was created or last marked read, newest first. -/
def sinceRead (succeeds : Nat → Bool) (id : ParticipantId) (trace : List (Entry chatMachine)) :
    List (Entry chatMachine) :=
  trace.takeWhile fun e => (e.pre.participants.find? id).isSome && !marksRead succeeds id e

/-- How many messages the others have committed to the participant's conversation since. -/
def unreadBy (succeeds : Nat → Bool) (p : ConversationParticipant) (trace : List (Entry chatMachine)) : Nat :=
  ((sinceRead succeeds p.id trace).flatMap posted).countP fun m =>
    p.conversationId = m.conversationId && p.userId ≠ m.senderId

/-- The message of the conversation that was committed last. -/
def lastCommitted (c : ConversationId) (trace : List (Entry chatMachine)) : Option Message :=
  (trace.flatMap posted).find? fun m => m.conversationId = c

section

variable {site : ChatSite} {j : Nat} {trace : List (Entry chatMachine)} {p : ConversationParticipant}
  {succeeds : Nat → Bool}

theorem posted_nil (hsame : s'.messages = s.messages) : posted ⟨⟨site, s, s'⟩, j⟩ = [] := by
  refine List.filter_eq_nil_iff.mpr fun m hm hnew => ?_
  have hold : m ∈ s.messages.rows := hsame ▸ hm
  exact absurd hold (of_decide_eq_true hnew)

theorem posted_insert {m : Message} (hnew : s.messages.insert? m = some s'.messages) :
    posted ⟨⟨site, s, s'⟩, j⟩ = [m] := by
  obtain ⟨hfresh, hrows⟩ := Table.insert?_eq_some.mp hnew
  have hm : m ∉ s.messages.rows := fun hm => Table.find?_eq_none.mp hfresh m hm rfl
  have hothers : (s.messages.rows.filter fun m => m ∉ s.messages.rows) = [] :=
    List.filter_eq_nil_iff.mpr fun m' hm' hnot => absurd hm' (of_decide_eq_true hnot)
  show (s'.messages.rows.filter fun m => m ∉ s.messages.rows) = [m]
  rw [hrows, List.filter_cons, if_pos (decide_eq_true hm), hothers]

/-- A row that was created, or marked read, by the last step. -/
theorem unreadBy_zero (hstop : s.participants.find? p.id = none ∨
    marksRead succeeds p.id ⟨⟨site, s, s'⟩, j⟩ = true) : unreadBy succeeds p (⟨⟨site, s, s'⟩, j⟩ :: trace) = 0 := by
  have hnone : sinceRead succeeds p.id (⟨⟨site, s, s'⟩, j⟩ :: trace) = [] := by
    refine List.takeWhile_cons_of_neg ?_
    rcases hstop with hnew | hread
    · simp [hnew]
    · simp [hread]
  rw [unreadBy, hnone]
  rfl

/-- A row that was there before the last step, which was not a `markRead` of it. -/
theorem unreadBy_cons (hrow : ∃ p₀, s.participants.find? p.id = some p₀)
    (hread : marksRead succeeds p.id ⟨⟨site, s, s'⟩, j⟩ = false) :
    unreadBy succeeds p (⟨⟨site, s, s'⟩, j⟩ :: trace) =
      (posted ⟨⟨site, s, s'⟩, j⟩).countP (fun m =>
        p.conversationId = m.conversationId && p.userId ≠ m.senderId) + unreadBy succeeds p trace := by
  obtain ⟨p₀, hp₀⟩ := hrow
  have hsince : sinceRead succeeds p.id (⟨⟨site, s, s'⟩, j⟩ :: trace) =
      ⟨⟨site, s, s'⟩, j⟩ :: sinceRead succeeds p.id trace := by
    refine List.takeWhile_cons_of_pos ?_
    simp [hp₀, hread]
  rw [unreadBy, hsince, List.flatMap_cons, List.countP_append, ← unreadBy]

theorem marksRead_of_ne {id : ParticipantId} (hsite : site ≠ .markRead id) :
    marksRead succeeds id ⟨⟨site, s, s'⟩, j⟩ = false := by
  simp [marksRead, hsite]

end

/-! ## Agreement -/

/-- The tables agree with the log. -/
structure Agreement (succeeds : Nat → Bool) (db : ChatDb) (trace : List (Entry chatMachine)) : Prop where
  linked : Linked db
  log : db.messages.rows = trace.flatMap posted
  unread : ∀ p ∈ db.participants.rows, p.unreadCount = unreadBy succeeds p trace
  last : ∀ c ∈ db.conversations.rows,
    c.lastMessage = (lastCommitted c.id trace).map (fun m => lastMessagePreview m.content) ∧
      c.lastMessageAt = (lastCommitted c.id trace).map Message.createdAt

section

variable {j : Nat} {trace : List (Entry chatMachine)} {succeeds : Nat → Bool}

theorem Agreement.silent (db : Db) : Agreement succeeds (.silent db) [] :=
  ⟨Linked.silent db, rfl, fun _ hp => absurd hp List.not_mem_nil, fun _ hc => absurd hc List.not_mem_nil⟩

theorem Agreement.elsewhere (db : Db) (ha : Agreement succeeds s trace) : Agreement succeeds (applyElsewhere db s) trace := by
  have hl := ha.linked.elsewhere db
  unfold applyElsewhere at hl ⊢
  split at hl
  · rename_i hkeeps
    rw [if_pos hkeeps]
    exact ⟨hl, ha.log, ha.unread, ha.last⟩
  · rename_i hkeeps
    rw [if_neg hkeeps]
    exact ha

/-- A step that commits no message keeps the log. -/
theorem log_same {site : ChatSite} (hsame : s'.messages = s.messages) :
    (⟨⟨site, s, s'⟩, j⟩ :: trace).flatMap posted = trace.flatMap posted := by
  rw [List.flatMap_cons, posted_nil hsame]
  rfl

theorem last_same {site : ChatSite} (hsame : s'.messages = s.messages) (c : ConversationId) :
    lastCommitted c (⟨⟨site, s, s'⟩, j⟩ :: trace) = lastCommitted c trace := by
  rw [lastCommitted, log_same hsame, ← lastCommitted]

/-- A step that commits a message. -/
theorem last_insert {site : ChatSite} {m : Message} (hnew : s.messages.insert? m = some s'.messages)
    (c : ConversationId) : lastCommitted c (⟨⟨site, s, s'⟩, j⟩ :: trace) =
      if m.conversationId = c then some m else lastCommitted c trace := by
  rw [lastCommitted, List.flatMap_cons, posted_insert hnew]
  show (m :: trace.flatMap posted).find? (fun m => m.conversationId = c) = _
  split
  case isTrue hof => exact List.find?_cons_of_pos (decide_eq_true hof)
  case isFalse hof => exact List.find?_cons_of_neg (Bool.eq_false_iff.mp (decide_eq_false hof))

/-- A row that no message has reached and nobody has marked read. -/
theorem Agreement.keeps {site : ChatSite} {p : ConversationParticipant} (ha : Agreement succeeds s trace)
    (hsame : s'.messages = s.messages) (hp : p ∈ s.participants.rows)
    (hread : marksRead succeeds p.id ⟨⟨site, s, s'⟩, j⟩ = false) :
    p.unreadCount = unreadBy succeeds p (⟨⟨site, s, s'⟩, j⟩ :: trace) := by
  rw [unreadBy_cons ⟨p, Table.find?_of_mem hp⟩ hread, posted_nil hsame]
  exact (ha.unread p hp).trans (Nat.zero_add _).symm

/-- A step that changes nothing, and is no `markRead` that succeeds. -/
theorem Agreement.noop {site : ChatSite} (ha : Agreement succeeds s trace)
    (hread : ∀ id, marksRead succeeds id ⟨⟨site, s, s⟩, j⟩ = false) :
    Agreement succeeds s (⟨⟨site, s, s⟩, j⟩ :: trace) := by
  refine ⟨ha.linked, ha.log.trans (log_same rfl).symm, fun p hp => ha.keeps rfl hp (hread p.id), fun c hc => ?_⟩
  rw [last_same rfl]
  exact ha.last c hc

theorem Agreement.creates {origin : Origin} {new : NewConversation} (ha : Agreement succeeds s trace)
    (hcreated : Created new s s') (hl : Linked s') :
    Agreement succeeds s' (⟨⟨.createConversation origin new, s, s'⟩, j⟩ :: trace) := by
  have hmessages := hcreated.messages
  refine ⟨hl, by rw [hmessages, log_same hmessages]; exact ha.log, fun p hp => ?_, fun c hc => ?_⟩
  · -- two rows are new, and no step of the trace can have been about them
    obtain ⟨t, hfirst, hsecond⟩ := hcreated.participants
    rw [hcreated.rows.2] at hp
    rcases List.mem_cons.mp hp with rfl | hp
    · have hfresh : s.participants.find? new.second.id = none := by
        cases hfind : s.participants.find? new.second.id with
        | none => rfl
        | some p =>
          have hlater := Table.find?_insert_of_some hfirst hfind
          exact absurd (hlater.symm.trans (Table.insert?_eq_some.mp hsecond).1) (Option.some_ne_none _)
      exact (unreadBy_zero (.inl hfresh)).symm
    rcases List.mem_cons.mp hp with rfl | hp
    · exact (unreadBy_zero (.inl (Table.insert?_eq_some.mp hfirst).1)).symm
    · exact ha.keeps hmessages hp (marksRead_of_ne nofun)
  · rw [last_same hmessages]
    rw [hcreated.rows.1] at hc
    rcases List.mem_cons.mp hc with rfl | hc
    · -- no message can have been sent to the conversation before
      have hnone : lastCommitted new.id trace = none := by
        rw [lastCommitted, ← ha.log]
        refine List.find?_eq_none.mpr fun m hm hof => ?_
        obtain ⟨c, hc⟩ := ha.linked.messages m hm
        rw [of_decide_eq_true hof] at hc
        exact absurd (hc.symm.trans (Table.insert?_eq_some.mp hcreated.conversations).1)
          (Option.some_ne_none _)
      show none = (lastCommitted new.id trace).map _ ∧ none = (lastCommitted new.id trace).map _
      rw [hnone]
      exact ⟨rfl, rfl⟩
    · exact ha.last c hc

theorem Agreement.sends {m : Message} {messages : Table Message}
    (ha : Agreement succeeds s trace) (hnew : s.messages.insert? m = some messages)
    (hs' : s' = { s with
      messages
      conversations := s.conversations.update m.conversationId (withLastMessage m)
      participants := s.participants.updateMany
        (fun p => p.conversationId = m.conversationId && p.userId ≠ m.senderId)
        fun p => { p with unreadCount := p.unreadCount + 1 } }) (hl : Linked s') :
    Agreement succeeds s' (⟨⟨.send m, s, s'⟩, j⟩ :: trace) := by
  have hnew' : s.messages.insert? m = some s'.messages := by
    rw [hs']
    exact hnew
  have hposted : (⟨⟨.send m, s, s'⟩, j⟩ :: trace).flatMap posted = m :: trace.flatMap posted := by
    rw [List.flatMap_cons, posted_insert hnew']
    rfl
  refine ⟨hl, ?_, fun p hp => ?_, fun c hc => ?_⟩
  · rw [hposted, (Table.insert?_eq_some.mp hnew').2, ha.log]
  · have hp' : p ∈ (s.participants.updateMany
        (fun p => p.conversationId = m.conversationId && p.userId ≠ m.senderId)
        fun p => { p with unreadCount := p.unreadCount + 1 }).rows := by
      rw [hs'] at hp
      exact hp
    have hcount : ∀ p₀ ∈ s.participants.rows, unreadBy succeeds p₀ (⟨⟨.send m, s, s'⟩, j⟩ :: trace) =
        (if p₀.conversationId = m.conversationId && p₀.userId ≠ m.senderId then 1 else 0) +
          p₀.unreadCount := by
      intro p₀ hp₀
      have hread : marksRead succeeds p₀.id ⟨⟨.send m, s, s'⟩, j⟩ = false := marksRead_of_ne nofun
      rw [unreadBy_cons ⟨p₀, Table.find?_of_mem hp₀⟩ hread, posted_insert hnew',
        List.countP_singleton, ha.unread p₀ hp₀]
    obtain ⟨p₀, hp₀, ⟨hother, rfl⟩ | ⟨hother, rfl⟩⟩ := Table.mem_rewritten hp'
    · -- one more message by somebody else
      have hone := hcount p₀ hp₀
      rw [if_pos hother] at hone
      show p₀.unreadCount + 1 = unreadBy succeeds p₀ _
      omega
    · -- the sender's own counter, and those of other conversations
      have hnone := hcount p hp₀
      rw [if_neg (Bool.eq_false_iff.mp hother)] at hnone
      omega
  · have hc' : c ∈ (s.conversations.update m.conversationId (withLastMessage m)).rows := by
      rw [hs'] at hc
      exact hc
    obtain ⟨c₀, hc₀, ⟨hof, rfl⟩ | ⟨hof, rfl⟩⟩ := Table.mem_rewritten hc'
    · -- the newest message is this one
      have hid : m.conversationId = c₀.id := (of_decide_eq_true hof).symm
      show _ = (lastCommitted c₀.id _).map _ ∧ _ = (lastCommitted c₀.id _).map _
      rw [last_insert hnew', if_pos hid]
      exact ⟨rfl, rfl⟩
    · have hid : m.conversationId ≠ c.id := fun heq => of_decide_eq_false hof heq.symm
      rw [last_insert hnew', if_neg hid]
      exact ha.last c hc₀

theorem Agreement.reads {id : ParticipantId} {now : Time} (ha : Agreement succeeds s trace)
    (hsucceeds : succeeds j = true)
    (hs' : s' = { s with participants := s.participants.update id (markedRead now) }) (hl : Linked s') :
    Agreement succeeds s' (⟨⟨.markRead id, s, s'⟩, j⟩ :: trace) := by
  have hmessages : s'.messages = s.messages := by rw [hs']
  have hparticipants : s'.participants = s.participants.update id (markedRead now) := by rw [hs']
  refine ⟨hl, by rw [hmessages, log_same hmessages]; exact ha.log, fun p hp => ?_, fun c hc => ?_⟩
  · rw [hparticipants] at hp
    obtain ⟨p₀, hp₀, ⟨hid, rfl⟩ | ⟨hid, rfl⟩⟩ := Table.mem_rewritten hp
    · have hsite : p₀.id = id := of_decide_eq_true hid
      -- this step is the last `markRead` of the row, so the count starts anew
      have hread : marksRead succeeds p₀.id ⟨⟨.markRead id, s, s'⟩, j⟩ = true := by
        exact Bool.and_eq_true_iff.mpr ⟨decide_eq_true (congrArg _ hsite.symm), hsucceeds⟩
      exact (unreadBy_zero (p := markedRead now p₀) (.inr hread)).symm
    · refine ha.keeps hmessages hp₀ (marksRead_of_ne fun heq => of_decide_eq_false hid ?_)
      exact (ChatSite.markRead.inj heq).symm
  · rw [last_same hmessages]
    rw [hs'] at hc
    exact ha.last c hc

/-- What the update of a `markRead` does: it stores zero if the call succeeds, and nothing otherwise. -/
inductive ResetsUnread (id : ParticipantId) (s s' : ChatDb) : Bool → Prop where
  | accepted {p : ConversationParticipant} (now : Time) (hfound : s.participants.find? id = some p)
      (hreset : s' = { s with participants := s.participants.update id (markedRead now) }) :
      ResetsUnread id s s' true
  | refused (hsame : s' = s) : ResetsUnread id s s' false

/-- **Every step keeps the agreement.** -/
theorem Agreement.step {site : ChatSite} (ha : Agreement succeeds s trace) (hstep : ChatStep site s s')
    (hread : ∀ id, site = .markRead id → ResetsUnread id s s' (succeeds j)) :
    Agreement succeeds s' (⟨⟨site, s, s'⟩, j⟩ :: trace) := by
  have hl := ha.linked.step hstep
  by_cases hsite : ∃ id, site = .markRead id
  · obtain ⟨id, rfl⟩ := hsite
    generalize hj : succeeds j = succeeded at hread
    -- whether the update was accepted and whether the call succeeds is one and the same
    cases hread id rfl with
    | accepted now hfound hreset => exact ha.reads hj hreset hl
    | refused hsame =>
      subst hsame
      refine ha.noop fun id' => Bool.and_eq_false_iff.mpr (.inr hj)
  · have hother : ∀ id, site ≠ .markRead id := fun id heq => hsite ⟨id, heq⟩
    cases hstep with
    | noop refused => exact ha.noop fun id => marksRead_of_ne (hother id)
    | creates origin new hcreate hne hchecked => exact ha.creates (createConversation_ok hcreate) hl
    | sends m hnew hfound => exact ha.sends hnew rfl hl
    | reads id now hfound => exact absurd rfl (hother id)

end

/-! ## What `markRead` stores -/

section

variable {me : Nat} {sub : String} {c : ConversationId} {dto : FindOrCreateConversationDto} {call : ChatCall}

/-- No counter was reset so far. -/
def Unread (h : List (StepRecord chatMachine)) : Prop := ∀ t ∈ h, ∀ id, t.site ≠ .markRead id

/-- How the call ends tells what its update has done. -/
def ReadEnds {α : Type} (h : List (StepRecord chatMachine)) (r : Except Err α) : Prop :=
  ∀ t ∈ h, ∀ id, t.site = .markRead id → ResetsUnread id t.pre t.post r.isOk

theorem Unread.ends {α : Type} {r : Except Err α} (hh : Unread h) : ReadEnds h r :=
  fun t ht id hsite => absurd hsite (hh t ht id)

theorem Unread.query (hh : Unread h) : Unread (⟨.query, s, s'⟩ :: h) :=
  List.forall_mem_cons.mpr ⟨(fun id heq => by cases heq), hh⟩

end

/-! ## A send that fails -/

section

variable {α β : Type}

/-- The steps have changed nothing. -/
def Unchanged (h : List (StepRecord chatMachine)) : Prop := ∀ t ∈ h, t.post = t.pre

/-- A program that fails has changed nothing. -/
def FailsUnchanged : Post chatMachine α := fun h r _ => ∀ e, r = .error e → Unchanged h

theorem FailsUnchanged.ok {a : α} : FailsUnchanged h (.ok a) s := by
  intro e heq
  cases heq

end

/-! ## Runs -/

end IncaCook
