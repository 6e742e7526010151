import WebhookRelay.History.Store

/-!
# The history store refines a log store

What the store is for: every session keeps the whole log of turns appended since it was last
absent, with the time of its last append. `LogStore` says that and nothing else; the code keeps
`_truncate` of each log. `Refines` relates the two, every operation keeps it (`Refines.apply`),
and so every run from the empty store does (`Refines.run`).

For `max_turns ≥ 1` truncation keeps the last `2 * max_turns` turns. At `max_turns = 0` the
slice `history[-0:]` is the whole list (`truncate_zero`), so the store keeps every log whole.
-/

namespace WebhookRelay.History

open Python

/-- A session of the abstract store. -/
structure Session where
  log : List ChatTurn
  lastActive : Int

/-- The abstract store: each session id to its log and last activity. -/
def LogStore := String → Option Session

/-- One call on the store, with the clock readings it takes. -/
inductive Op where
  | appendUser (sessionId content : String) (now stamp : Int)
  | appendAssistant (sessionId content : String) (stamp : Int)
  | clear (sessionId : String)
  | get (sessionId : String)

namespace LogStore

/-- No session. -/
def empty : LogStore := fun _ => none

/-- Drop every session whose last activity is more than `ttl` before `now`. -/
def sweep (a : LogStore) (ttl now : Int) : LogStore :=
  fun k => (a k).filter fun e => !(now - e.lastActive > ttl)

/-- Append a turn to a session's log, starting one if absent, and stamp it. -/
def append (a : LogStore) (k : String) (t : ChatTurn) (stamp : Int) : LogStore :=
  Function.update a k (some ⟨((a k).map Session.log).getD [] ++ [t], stamp⟩)

/-- The abstract effect of one call. -/
def apply (ttl : Int) (a : LogStore) : Op → LogStore
  | .appendUser k c now stamp => (a.sweep ttl now).append k ⟨.user, c⟩ stamp
  | .appendAssistant k c stamp => a.append k ⟨.assistant, c⟩ stamp
  | .clear k => Function.update a k none
  | .get _ => a

/-- A run of calls. -/
def run (ttl : Int) (a : LogStore) (ops : List Op) : LogStore := ops.foldl (apply ttl) a

end LogStore

namespace ConversationHistory

/-- The code's effect of one call; `get` only reads. -/
def apply (h : ConversationHistory) : Op → ConversationHistory
  | .appendUser k c now stamp => h.appendUser k c now stamp
  | .appendAssistant k c stamp => h.appendAssistant k c stamp
  | .clear k => h.clear k
  | .get _ => h

/-- A run of calls. -/
def run (h : ConversationHistory) (ops : List Op) : ConversationHistory := ops.foldl apply h

end ConversationHistory

/-! ## The refinement -/

/-- `h` holds the truncation of every log of `a`, and its stamp. -/
structure Refines (m ttl : Int) (a : LogStore) (h : ConversationHistory) : Prop where
  maxMessages : h.maxMessages = m
  sessionTtl : h.sessionTtl = ttl
  store : ∀ k, h.store.get? k = (a k).map fun e => ConversationHistory.truncate m e.log
  lastSeen : ∀ k, h.lastSeen.get? k = (a k).map Session.lastActive

namespace Refines

variable {m ttl : Int} {a : LogStore} {h : ConversationHistory}

theorem get_eq (r : Refines m ttl a h) (k : String) :
    h.get k = ((a k).map fun e => ConversationHistory.truncate m e.log).getD [] := by
  simp [ConversationHistory.get, r.store k]

theorem popSession (r : Refines m ttl a h) (k : String) :
    Refines m ttl (Function.update a k none) (h.popSession k) := by
  refine ⟨r.maxMessages, r.sessionTtl, fun j => ?_, fun j => ?_⟩ <;>
  · by_cases hj : k = j
    · subst hj; simp
    · simp [Dict.get?_pop_ne _ hj, Function.update_noteq (Ne.symm hj), r.store, r.lastSeen]

theorem sweep (r : Refines m ttl a h) (now : Int) :
    Refines m ttl (a.sweep ttl now) (h.evictStaleSessions now) := by
  have hsweep : ∀ k, a.sweep ttl now k = if h.isStale now k then none else a k := by
    intro k
    simp only [ConversationHistory.isStale, r.lastSeen, r.sessionTtl, LogStore.sweep]
    cases a k with
    | none => rfl
    | some e => by_cases hs : now - e.lastActive > ttl <;> simp [Option.filter, hs]
  refine ⟨by simp [r.maxMessages], by simp [r.sessionTtl], fun k => ?_, fun k => ?_⟩
  · rw [ConversationHistory.evictStaleSessions_store, hsweep]
    split_ifs <;> simp [r.store]
  · rw [ConversationHistory.evictStaleSessions_lastSeen, hsweep]
    split_ifs <;> simp [r.lastSeen]

theorem append (r : Refines m ttl a h) (hm : 0 ≤ m) (k : String) (t : ChatTurn) (stamp : Int) :
    Refines m ttl (a.append k t stamp) (h.appendTurn k t stamp) := by
  refine ⟨r.maxMessages, r.sessionTtl, fun j => ?_, fun j => ?_⟩ <;>
  · by_cases hj : k = j
    · subst hj
      cases hk : a k <;>
        simp [LogStore.append, r.get_eq, hk, r.maxMessages,
          ConversationHistory.truncate_truncate_append hm]
    · simp [LogStore.append, Dict.get?_set_ne _ _ hj, Function.update_noteq (Ne.symm hj),
        r.store, r.lastSeen]

theorem apply (r : Refines m ttl a h) (hm : 0 ≤ m) (op : Op) :
    Refines m ttl (LogStore.apply ttl a op) (h.apply op) := by
  cases op with
  | appendUser k c now stamp => exact (r.sweep now).append hm k _ stamp
  | appendAssistant k c stamp => exact r.append hm k _ stamp
  | clear k => exact r.popSession k
  | get k => exact r

theorem run (r : Refines m ttl a h) (hm : 0 ≤ m) (ops : List Op) :
    Refines m ttl (LogStore.run ttl a ops) (h.run ops) := by
  induction ops generalizing a h with
  | nil => exact r
  | cons op ops ih => exact ih (r.apply hm op)

end Refines

theorem refines_new (maxTurns ttl : Int) :
    Refines (maxTurns * 2) ttl LogStore.empty (ConversationHistory.new maxTurns ttl) :=
  ⟨rfl, rfl, fun _ => rfl, fun _ => rfl⟩

/-- Every run of the store from `ConversationHistory(max_turns, ttl)` tracks the log store:
both dicts have the log store's keys, the stamps are its last activities, and `get` returns the
last `2 * max_turns` turns of the log (`[]` for an absent session). -/
theorem history_refines_log_store (maxTurns ttl : Int) (hm : 1 ≤ maxTurns) (ops : List Op) :
    let h := (ConversationHistory.new maxTurns ttl).run ops
    let a := LogStore.run ttl LogStore.empty ops
    (∀ k, (h.store.get? k).isSome = (a k).isSome) ∧
      (∀ k, (h.lastSeen.get? k).isSome = (a k).isSome) ∧
      (∀ k, h.lastSeen.get? k = (a k).map Session.lastActive) ∧
      ∀ k, h.get k = match a k with
        | some e => e.log.drop (e.log.length - 2 * maxTurns.toNat)
        | none => [] := by
  have r := (refines_new maxTurns ttl).run (by omega) ops
  have hn : maxTurns * 2 = ((2 * maxTurns.toNat : Nat) : Int) := by omega
  refine ⟨fun k => by simp [r.store k], fun k => by simp [r.lastSeen k], r.lastSeen, fun k => ?_⟩
  rw [r.get_eq, hn]
  cases LogStore.run ttl LogStore.empty ops k with
  | none => rfl
  | some e => exact ConversationHistory.truncate_eq_rtake (by omega) e.log

theorem history_refines_log_store_one_turn : (1 : Int) ≤ 1 ∧
    let h := (ConversationHistory.new 1 0).run [.appendUser "telegram:u1" "hi" 0 0]
    let a := LogStore.run 0 LogStore.empty [.appendUser "telegram:u1" "hi" 0 0]
    (∀ k, (h.store.get? k).isSome = (a k).isSome) ∧
      (∀ k, (h.lastSeen.get? k).isSome = (a k).isSome) ∧
      (∀ k, h.lastSeen.get? k = (a k).map Session.lastActive) ∧
      ∀ k, h.get k = match a k with
        | some e => e.log.drop (e.log.length - 2 * (1 : Int).toNat)
        | none => [] :=
  ⟨by decide, history_refines_log_store 1 0 (by decide) [.appendUser "telegram:u1" "hi" 0 0]⟩

/-! ## `max_turns = 0` -/

/-- Repeated `append_user` calls stamped at the sweep's own reading never go stale. -/
theorem LogStore.run_appendUser_replicate {ttl : Int} (httl : 0 ≤ ttl) (k c : String) (t : Int)
    (n : Nat) :
    LogStore.run ttl LogStore.empty (List.replicate n (.appendUser k c t t)) k =
      if n = 0 then none else some ⟨List.replicate n ⟨.user, c⟩, t⟩ := by
  induction n with
  | zero => rfl
  | succ n ih =>
    have hrun : ∀ ops op, LogStore.run ttl LogStore.empty (ops ++ [op]) =
        LogStore.apply ttl (LogStore.run ttl LogStore.empty ops) op := by
      simp [LogStore.run]
    rw [List.replicate_succ', hrun]
    simp only [LogStore.apply, LogStore.append, LogStore.sweep, Function.update_same, ih]
    rcases Nat.eq_zero_or_pos n with rfl | hn
    · rfl
    · have : ¬ ttl < 0 := by omega
      simp [Option.filter, List.replicate_succ', hn.ne', this]

/-- At `max_turns = 0` `append_user` never drops a turn: after `n` appends to one session,
`get` returns `n` turns, against the bound `2 * max_turns = 0`. -/
theorem zero_max_turns_history_unbounded (n : Nat) :
    (((ConversationHistory.new 0).run
      (List.replicate n (.appendUser "telegram:u1" "hi" 0 0))).get "telegram:u1").length = n := by
  have r := (refines_new 0 (24 * 3600)).run (by decide) (List.replicate n
    (.appendUser "telegram:u1" "hi" 0 0))
  rw [r.get_eq, LogStore.run_appendUser_replicate (by decide)]
  split_ifs with hn
  · simp [hn]
  · simp [ConversationHistory.truncate_zero]

end WebhookRelay.History
