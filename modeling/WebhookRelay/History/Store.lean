import WebhookRelay.Models

/-!
# The conversation history store

`ConversationHistory` of `src/webhook/history.py`: two dicts keyed by session id, the turn
lists and the last-activity stamps. `append_user` and `append_assistant` share one tail
(`setdefault`, append, stamp, `_truncate`); only `append_user` sweeps stale sessions first.

Each reading of `time.monotonic()` is an argument: `append_user` reads the clock twice, once
in the sweep and once for the stamp, `append_assistant` once. Readings and the TTL are
integers of one common unit.
-/

namespace WebhookRelay.History

open Python

/-- The two roles a stored turn can have. -/
inductive Role where
  | user
  | assistant
  deriving DecidableEq, Repr

/-- One stored turn, `{"role": ..., "content": ...}`. -/
structure ChatTurn where
  role : Role
  content : String
  deriving DecidableEq, Repr

/-- The store's state; `maxMessages` is `max_turns * 2`. -/
structure ConversationHistory where
  maxMessages : Int
  sessionTtl : Int
  store : Dict (List ChatTurn)
  lastSeen : Dict Int

namespace ConversationHistory

/-- `ConversationHistory(max_turns, session_ttl_seconds)`. -/
def new (maxTurns : Int := 20) (sessionTtlSeconds : Int := 24 * 3600) : ConversationHistory :=
  ⟨maxTurns * 2, sessionTtlSeconds, Dict.empty, Dict.empty⟩

/-- `get`: a copy of the session's turns, `[]` when absent. -/
def get (h : ConversationHistory) (sessionId : String) : List ChatTurn :=
  (h.store.get? sessionId).getD []

/-- `_truncate`, on the list it reads back from `_store[session_id]`. -/
def truncate (maxMessages : Int) (history : List ChatTurn) : List ChatTurn :=
  if history.length > maxMessages then sliceFrom history (-maxMessages) else history

/-- One iteration of the sweep's loop, and `clear`: pop the session from both dicts. -/
def popSession (h : ConversationHistory) (sessionId : String) : ConversationHistory :=
  { h with store := h.store.pop sessionId, lastSeen := h.lastSeen.pop sessionId }

/-- `_evict_stale_sessions` with `now` the clock reading it takes. -/
def evictStaleSessions (h : ConversationHistory) (now : Int) : ConversationHistory :=
  let stale := (h.lastSeen.items.filter fun e => now - e.2 > h.sessionTtl).map Prod.fst
  stale.foldl popSession h

/-- The tail both appends share: `setdefault`, append, stamp, `_truncate`. -/
def appendTurn (h : ConversationHistory) (sessionId : String) (turn : ChatTurn)
    (stamp : Int) : ConversationHistory :=
  { h with
    store := h.store.set sessionId (truncate h.maxMessages (h.get sessionId ++ [turn]))
    lastSeen := h.lastSeen.set sessionId stamp }

/-- `append_user`: sweep at `now`, then append and stamp at `stamp`. -/
def appendUser (h : ConversationHistory) (sessionId content : String) (now stamp : Int) :
    ConversationHistory :=
  (h.evictStaleSessions now).appendTurn sessionId ⟨.user, content⟩ stamp

/-- `append_assistant`: no sweep. -/
def appendAssistant (h : ConversationHistory) (sessionId content : String) (stamp : Int) :
    ConversationHistory :=
  h.appendTurn sessionId ⟨.assistant, content⟩ stamp

/-- `clear`. -/
def clear (h : ConversationHistory) (sessionId : String) : ConversationHistory :=
  h.popSession sessionId

/-- Whether the sweep at `now` removes `sessionId`. -/
def isStale (h : ConversationHistory) (now : Int) (sessionId : String) : Bool :=
  (h.lastSeen.get? sessionId).any fun ts => now - ts > h.sessionTtl

/-! ## Truncation -/

/-- With a positive limit `_truncate` keeps the last `n` turns. -/
theorem truncate_eq_rtake {n : Nat} (hn : 0 < n) (xs : List ChatTurn) :
    truncate n xs = xs.rtake n := by
  unfold truncate
  split_ifs with hlen
  · exact sliceFrom_neg xs hn
  · simp [List.rtake, show xs.length - n = 0 by omega]

/-- A positive limit bounds what `_truncate` keeps. -/
theorem length_truncate_le {m : Int} (hm : 0 < m) (xs : List ChatTurn) :
    (truncate m xs).length ≤ m.toNat := by
  obtain ⟨n, rfl⟩ : ∃ n : Nat, m = n := ⟨m.toNat, by omega⟩
  rw [truncate_eq_rtake (by omega)]
  simp [List.rtake]
  omega

/-- `history[-0:]` is the whole list: a zero limit drops nothing. -/
theorem truncate_zero (xs : List ChatTurn) : truncate 0 xs = xs := by
  unfold truncate; split_ifs <;> simp

theorem rtake_rtake_succ (l : List ChatTurn) (m : Nat) : (l.rtake (m + 1)).rtake m = l.rtake m := by
  simp only [List.rtake, List.drop_drop, List.length_drop]
  congr 1
  omega

/-- Truncating after each append is truncating the whole log once. -/
theorem truncate_truncate_append {m : Int} (hm : 0 ≤ m) (l : List ChatTurn) (t : ChatTurn) :
    truncate m (truncate m l ++ [t]) = truncate m (l ++ [t]) := by
  obtain ⟨n, rfl⟩ : ∃ n : Nat, m = n := ⟨m.toNat, by omega⟩
  cases n with
  | zero => simp [truncate_zero]
  | succ n =>
    have hn : 0 < n + 1 := n.succ_pos
    rw [truncate_eq_rtake hn, truncate_eq_rtake hn, truncate_eq_rtake hn, List.rtake_concat_succ,
      List.rtake_concat_succ, rtake_rtake_succ]

/-! ## One law per operation -/

variable (h : ConversationHistory) (k k' : String)

@[simp] theorem popSession_maxMessages : (h.popSession k).maxMessages = h.maxMessages := rfl
@[simp] theorem popSession_sessionTtl : (h.popSession k).sessionTtl = h.sessionTtl := rfl
@[simp] theorem popSession_store : (h.popSession k).store = h.store.pop k := rfl
@[simp] theorem popSession_lastSeen : (h.popSession k).lastSeen = h.lastSeen.pop k := rfl

@[simp] theorem appendTurn_maxMessages (t : ChatTurn) (s : Int) :
    (h.appendTurn k t s).maxMessages = h.maxMessages := rfl
@[simp] theorem appendTurn_sessionTtl (t : ChatTurn) (s : Int) :
    (h.appendTurn k t s).sessionTtl = h.sessionTtl := rfl
@[simp] theorem appendTurn_store (t : ChatTurn) (s : Int) :
    (h.appendTurn k t s).store = h.store.set k (truncate h.maxMessages (h.get k ++ [t])) := rfl
@[simp] theorem appendTurn_lastSeen (t : ChatTurn) (s : Int) :
    (h.appendTurn k t s).lastSeen = h.lastSeen.set k s := rfl

theorem appendTurn_store_ne {k k' : String} (hk : k ≠ k') (t : ChatTurn) (s : Int) :
    (h.appendTurn k t s).store.get? k' = h.store.get? k' := Dict.get?_set_ne _ _ hk

theorem appendTurn_lastSeen_ne {k k' : String} (hk : k ≠ k') (t : ChatTurn) (s : Int) :
    (h.appendTurn k t s).lastSeen.get? k' = h.lastSeen.get? k' := Dict.get?_set_ne _ _ hk

@[simp] theorem get_appendTurn_self (t : ChatTurn) (s : Int) :
    (h.appendTurn k t s).get k = truncate h.maxMessages (h.get k ++ [t]) := by
  simp [get]

@[simp] theorem clear_eq : h.clear k = h.popSession k := rfl

theorem isStale_iff (now : Int) :
    h.isStale now k ↔ ∃ ts, h.lastSeen.get? k = some ts ∧ now - ts > h.sessionTtl := by
  unfold isStale
  cases h.lastSeen.get? k <;> simp

theorem foldl_popSession_fields (L : List String) :
    (L.foldl popSession h).maxMessages = h.maxMessages ∧
      (L.foldl popSession h).sessionTtl = h.sessionTtl := by
  induction L generalizing h with
  | nil => simp
  | cons j L ih => simpa using ih (h.popSession j)

theorem foldl_popSession_get? (L : List String) :
    (L.foldl popSession h).store.get? k = (if k ∈ L then none else h.store.get? k) ∧
      (L.foldl popSession h).lastSeen.get? k = (if k ∈ L then none else h.lastSeen.get? k) := by
  induction L generalizing h with
  | nil => simp
  | cons j L ih =>
    rw [List.foldl_cons, (ih (h.popSession j)).1, (ih (h.popSession j)).2]
    by_cases hj : j = k
    · subst hj; simp
    · simp [Dict.get?_pop_ne _ hj, Ne.symm hj]

theorem mem_stale_iff (now : Int) :
    k ∈ (h.lastSeen.items.filter fun e => now - e.2 > h.sessionTtl).map Prod.fst ↔
      h.isStale now k := by
  cases hk : h.lastSeen.get? k with
  | none =>
    simp only [isStale, hk, Option.any_none, Bool.false_eq_true, iff_false]
    simp only [List.mem_map, List.mem_filter, not_exists, not_and]
    rintro ⟨j, ts⟩ ⟨hmem, -⟩ rfl
    simp [(Dict.get?_eq_some_iff _ _ ts).2 hmem] at hk
  | some ts =>
    have hmem := (Dict.get?_eq_some_iff _ _ ts).1 hk
    simp only [isStale, hk, Option.any_some, List.mem_map, List.mem_filter]
    constructor
    · rintro ⟨⟨j, ts'⟩, ⟨hmem', hlt⟩, rfl⟩
      cases (Dict.get?_eq_some_iff _ _ ts').2 hmem' ▸ hk
      simpa using hlt
    · intro hlt
      exact ⟨(k, ts), ⟨hmem, by simpa using hlt⟩, rfl⟩

@[simp] theorem evictStaleSessions_maxMessages (now : Int) :
    (h.evictStaleSessions now).maxMessages = h.maxMessages :=
  (foldl_popSession_fields h _).1

@[simp] theorem evictStaleSessions_sessionTtl (now : Int) :
    (h.evictStaleSessions now).sessionTtl = h.sessionTtl :=
  (foldl_popSession_fields h _).2

theorem evictStaleSessions_store (now : Int) :
    (h.evictStaleSessions now).store.get? k = if h.isStale now k then none else h.store.get? k := by
  simp only [evictStaleSessions, (foldl_popSession_get? h k _).1, mem_stale_iff]

theorem evictStaleSessions_lastSeen (now : Int) :
    (h.evictStaleSessions now).lastSeen.get? k =
      if h.isStale now k then none else h.lastSeen.get? k := by
  simp only [evictStaleSessions, (foldl_popSession_get? h k _).2, mem_stale_iff]

/-- The sweep empties a session or leaves it whole. -/
theorem get_evictStaleSessions (now : Int) :
    (h.evictStaleSessions now).get k = if h.isStale now k then [] else h.get k := by
  unfold get; rw [evictStaleSessions_store]; split_ifs <;> rfl

/-- What `append_user` leaves in its own session. -/
theorem get_appendUser_self (c : String) (now stamp : Int) :
    (h.appendUser k c now stamp).get k =
      truncate h.maxMessages ((h.evictStaleSessions now).get k ++ [⟨.user, c⟩]) := by
  simp [appendUser]

@[simp] theorem appendUser_maxMessages (c : String) (now stamp : Int) :
    (h.appendUser k c now stamp).maxMessages = h.maxMessages := by simp [appendUser]

@[simp] theorem appendUser_sessionTtl (c : String) (now stamp : Int) :
    (h.appendUser k c now stamp).sessionTtl = h.sessionTtl := by simp [appendUser]

@[simp] theorem appendAssistant_maxMessages (c : String) (stamp : Int) :
    (h.appendAssistant k c stamp).maxMessages = h.maxMessages := rfl

@[simp] theorem appendAssistant_sessionTtl (c : String) (stamp : Int) :
    (h.appendAssistant k c stamp).sessionTtl = h.sessionTtl := rfl

/-- What a user turn and then its reply leave in their session. -/
theorem get_appendAssistant_appendUser (hm : 0 ≤ h.maxMessages) (u a : String)
    (now stamp stamp' : Int) :
    ((h.appendUser k u now stamp).appendAssistant k a stamp').get k =
      truncate h.maxMessages ((h.evictStaleSessions now).get k ++ [⟨.user, u⟩, ⟨.assistant, a⟩]) := by
  simp only [appendAssistant, get_appendTurn_self, appendUser, appendTurn_maxMessages,
    evictStaleSessions_maxMessages]
  rw [truncate_truncate_append hm]
  simp

end ConversationHistory

end WebhookRelay.History
