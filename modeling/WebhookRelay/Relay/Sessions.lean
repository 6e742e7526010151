import WebhookRelay.Relay.Request

/-!
# Relays one after another on one session

Each relay appends the user turn, then the assistant reply, and `_truncate` runs after each
append. Between relays the session therefore holds whole user+assistant pairs (`Paired`). The
truncation after `append_user` drops one turn, not a pair: when the session is full, the user
turn of the oldest pair goes and its reply stays first in the list that is forwarded
(`Paired.forwarded_full`). `append_assistant` then drops that reply too, so the pairs are whole
again.
-/

namespace WebhookRelay.Relay

open Python History

/-! ## Whole pairs -/

/-- A user turn, then its reply, and so on. -/
def Paired : List ChatTurn → Prop
  | [] => True
  | [_] => False
  | u :: a :: rest => u.role = .user ∧ a.role = .assistant ∧ Paired rest

instance decidablePaired : (l : List ChatTurn) → Decidable (Paired l)
  | [] => isTrue trivial
  | [_] => isFalse id
  | _ :: _ :: rest =>
    have := decidablePaired rest
    inferInstanceAs (Decidable (_ ∧ _ ∧ Paired rest))

theorem Paired.length_even : ∀ {l : List ChatTurn}, Paired l → l.length % 2 = 0
  | [], _ => rfl
  | [_], h => h.elim
  | _ :: _ :: _, ⟨_, _, h⟩ => by have := h.length_even; simp; omega

theorem Paired.append_pair {u a : ChatTurn} (hu : u.role = .user) (ha : a.role = .assistant) :
    ∀ {l : List ChatTurn}, Paired l → Paired (l ++ [u, a])
  | [], _ => ⟨hu, ha, trivial⟩
  | [_], h => h.elim
  | _ :: _ :: _, ⟨h₁, h₂, h⟩ => ⟨h₁, h₂, h.append_pair hu ha⟩

/-- A paired list of at least two turns starts with a whole pair. -/
theorem Paired.cons_cons {l : List ChatTurn} (h : Paired l) (hl : 2 ≤ l.length) :
    ∃ u a rest, l = u :: a :: rest ∧ u.role = .user ∧ a.role = .assistant ∧
      Paired rest := by
  match l, h with
  | u :: a :: rest, ⟨hu, ha, h⟩ => exact ⟨u, a, rest, rfl, hu, ha, h⟩

variable {n : Nat} {H : List ChatTurn}

/-- A relay's two appends and truncations on a paired session of at most `n` pairs. -/
theorem Paired.rtake_append_pair (hH : Paired H) (hn : 1 ≤ n) (hlen : H.length ≤ 2 * n)
    {u a : ChatTurn}
    (hu : u.role = .user) (ha : a.role = .assistant) :
    Paired ((H ++ [u, a]).rtake (2 * n)) ∧ ((H ++ [u, a]).rtake (2 * n)).length ≤ 2 * n := by
  have he := hH.length_even
  rcases Nat.lt_or_ge H.length (2 * n) with hlt | hge
  · have h0 : (H ++ [u, a]).length - 2 * n = 0 := by simp; omega
    rw [List.rtake, h0, List.drop_zero]
    exact ⟨hH.append_pair hu ha, by simp; omega⟩
  · obtain ⟨u₀, a₀, rest, rfl, -, -, hrest⟩ := hH.cons_cons (by omega)
    have h2 : (u₀ :: a₀ :: rest ++ [u, a]).length - 2 * n = 2 := by simp at hlen hge ⊢; omega
    rw [List.rtake, h2, List.cons_append, List.cons_append, List.drop_succ_cons,
      List.drop_succ_cons, List.drop_zero]
    exact ⟨hrest.append_pair hu ha, by simp at hlen ⊢; omega⟩

/-- From a session of fewer than `n` pairs a relay forwards every stored turn. -/
theorem Paired.rtake_pred_of_lt (hH : Paired H) (hlt : H.length < 2 * n) :
    H.rtake (2 * n - 1) = H := by
  have he := hH.length_even
  have h0 : H.length - (2 * n - 1) = 0 := by omega
  rw [List.rtake, h0, List.drop_zero]

/-- From a full session, `n` pairs, a relay forwards all but the oldest user turn. -/
theorem Paired.rtake_pred_full (hH : Paired H) (hn : 1 ≤ n) (hlen : H.length = 2 * n) :
    ∃ u a rest, H = u :: a :: rest ∧ u.role = .user ∧ a.role = .assistant ∧ Paired rest ∧
      H.rtake (2 * n - 1) = a :: rest := by
  obtain ⟨u, a, rest, rfl, hu, ha, hrest⟩ := hH.cons_cons (by omega)
  have h1 : (u :: a :: rest).length - (2 * n - 1) = 1 := by omega
  refine ⟨u, a, rest, rfl, hu, ha, hrest, ?_⟩
  rw [List.rtake, h1, List.drop_one, List.tail_cons]

/-! ## The forwarded list -/

/-- From a full session the forwarded list has `2 * n` entries and starts with the reply whose
user turn `append_user` just dropped. -/
theorem Paired.forwarded_full (hH : Paired H) (hn : 1 ≤ n) (hfull : H.length = 2 * n)
    (content : Content) :
    ((H.rtake (2 * n - 1)).map ChatTurn.toMessage ++ [(⟨.user, content⟩ : Message)]).length =
        2 * n ∧
      ∃ u a rest, H = u :: a :: rest ∧ u.role = .user ∧ a.role = .assistant ∧
        Paired rest ∧
        ((H.rtake (2 * n - 1)).map ChatTurn.toMessage ++ [(⟨.user, content⟩ : Message)]).head? =
          some (ChatTurn.toMessage a) := by
  obtain ⟨u, a, rest, rfl, hu, ha, hrest, hr⟩ := hH.rtake_pred_full hn hfull
  rw [hr]
  simp only [List.length_cons] at hfull
  exact ⟨by simp; omega, u, a, rest, rfl, hu, ha, hrest, rfl⟩

/-- A list forwarded from a paired session of at most `n` pairs starts with a user turn exactly
when it is shorter than `2 * n`. -/
theorem Paired.forwarded_head_user_iff (hH : Paired H) (hn : 1 ≤ n) (hlen : H.length ≤ 2 * n)
    (content : Content) :
    (((H.rtake (2 * n - 1)).map ChatTurn.toMessage ++
        [(⟨.user, content⟩ : Message)]).head?.map Message.role = some .user ↔
      ((H.rtake (2 * n - 1)).map ChatTurn.toMessage ++ [(⟨.user, content⟩ : Message)]).length <
        2 * n) := by
  rcases hlen.lt_or_eq with hlt | hfull
  · have he := hH.length_even
    rw [hH.rtake_pred_of_lt hlt]
    match H, hH with
    | [], _ => simp; omega
    | u :: _ :: _, ⟨hu, _, _⟩ =>
      simp only [List.length_cons] at hlt he
      simp [ChatTurn.toMessage, hu]
      omega
  · obtain ⟨hlen, -, a, -, -, -, ha, -, hhead⟩ := hH.forwarded_full hn hfull content
    simp [hhead, hlen, ChatTurn.toMessage, ha]

theorem relay_forward_eq {p : WebhookRelayPipeline} {m : WebhookMessage}
    {forward : ChatRequest → WebhookResponse} {clk : Clocks} {cleanText : String} {c : List Call}
    (hg : gates p m = .ok (cleanText, c)) {body : ChatRequest}
    (hb : Call.forward body ∈ (relay p forward m clk).calls) :
    body = requestBody m cleanText (historyMessages p m cleanText clk).1 := by
  rw [relay_of_gates_ok hg] at hb
  simp only [List.mem_append, List.mem_cons] at hb
  rcases hb with (hb | hb) | hb | hb
  · simpa [Call.isForward] using List.filter_eq_nil_iff.1 (gates_eq_ok hg).2.1 _ hb
  · rw [(historyMessages_spec cleanText).2] at hb
    split_ifs at hb <;> simp at hb
  · exact Call.forward.inj hb
  · simpa [Call.isForward] using List.filter_eq_nil_iff.1 (relayFinish_spec _ _ _).2.1 _ hb

/-! ## One relay, then a run -/

/-- Session `k` of a store of limit `2 * n` holds whole pairs, at most `n` of them. -/
def SessionPaired (n : Nat) (k : String) (h : ConversationHistory) : Prop :=
  h.maxMessages = n * 2 ∧ Paired (h.get k) ∧ (h.get k).length ≤ 2 * n

theorem SessionPaired.sweep {k : String} {h : ConversationHistory} (hs : SessionPaired n k h)
    (now : Int) :
    Paired ((h.evictStaleSessions now).get k) ∧
      ((h.evictStaleSessions now).get k).length ≤ 2 * n := by
  rw [ConversationHistory.get_evictStaleSessions]
  split_ifs
  · exact ⟨trivial, by simp⟩
  · exact hs.2

/-- A relay that passes the gates and gets a 200 keeps its session paired, and forwards the
last `2 * n - 1` turns of its session after the sweep, then the current user turn. -/
theorem relay_step_paired {p : WebhookRelayPipeline} {m : WebhookMessage} {resp : WebhookResponse}
    (clk : Clocks) {cleanText : String} {c : List Call} {h : ConversationHistory}
    (hg : gates p m = .ok (cleanText, c)) (hh : p.conversationHistory = some h) (hn : 1 ≤ n)
    (hs : SessionPaired n (sessionKey m) h) (h200 : resp.statusCode = 200) :
    (∃ h', (relay p (fun _ => resp) m clk).history = some h' ∧
        SessionPaired n (sessionKey m) h') ∧
      ∀ body, Call.forward body ∈ (relay p (fun _ => resp) m clk).calls →
        ∃ content, body.messages =
          (((h.evictStaleSessions clk.sweep).get (sessionKey m)).rtake (2 * n - 1)).map
            ChatTurn.toMessage ++ [⟨.user, content⟩] := by
  obtain ⟨hH, hlen⟩ := hs.sweep clk.sweep
  refine ⟨⟨(h.appendUser (sessionKey m) (historyText cleanText m.attachments) clk.sweep
    clk.user).appendAssistant (sessionKey m) resp.text clk.assistant,
    by rw [relay_history_of_gates_ok hg, hh]; simp [h200], ?_⟩, fun body hb => ?_⟩
  · have hmax : h.maxMessages = ((2 * n : Nat) : Int) := by rw [hs.1]; omega
    refine ⟨by simp [ConversationHistory.appendAssistant, ConversationHistory.appendUser, hs.1],
      ?_⟩
    rw [ConversationHistory.get_appendAssistant_appendUser _ _ (by omega), hmax,
      ConversationHistory.truncate_eq_rtake (by omega)]
    exact hH.rtake_append_pair hn hlen rfl rfl
  · have hmax : h.maxMessages = ((2 * n - 1 + 1 : Nat) : Int) := by rw [hs.1]; omega
    rw [relay_forward_eq hg hb, requestBody_messages hh hmax]
    exact ⟨_, rfl⟩

/-- Relays one after another, each on the store the one before left, each with its clock
readings and the upstream's answer. -/
def relaySeq (p : WebhookRelayPipeline) :
    List (WebhookMessage × Clocks × WebhookResponse) → List Outcome
  | [] => []
  | (m, clk, resp) :: rest =>
    let o := relay p (fun _ => resp) m clk
    o :: relaySeq { p with conversationHistory := o.history } rest

theorem with_history_eq {p : WebhookRelayPipeline} {o : Option ConversationHistory}
    (h : p.conversationHistory = o) : { p with conversationHistory := o } = p := by
  subst h
  rfl

/-- Each relay of a run starts from a store whose session holds whole pairs, at most `n`. -/
theorem relaySeq_paired {k : String} (hn : 1 ≤ n)
    (run : List (WebhookMessage × Clocks × WebhookResponse)) :
    ∀ {p : WebhookRelayPipeline} {h : ConversationHistory}, p.conversationHistory = some h →
      SessionPaired n k h →
      (∀ x ∈ run, sessionKey x.1 = k ∧ (∃ cleanText c, gates p x.1 = .ok (cleanText, c)) ∧
        x.2.2.statusCode = 200) →
      ∀ o ∈ relaySeq p run, ∃ h, ∃ x ∈ run,
        o = relay { p with conversationHistory := some h } (fun _ => x.2.2) x.1 x.2.1 ∧
        SessionPaired n k h := by
  induction run with
  | nil => simp [relaySeq]
  | cons x rest ih =>
    intro p h hh hs hrun o ho
    obtain ⟨m, clk, resp⟩ := x
    obtain ⟨rfl, ⟨cleanText, c, hg⟩, h200⟩ := hrun _ (List.mem_cons_self _ _)
    obtain ⟨⟨h', hh', hs'⟩, -⟩ := relay_step_paired clk hg hh hn hs h200
    simp only [relaySeq, List.mem_cons] at ho
    rcases ho with rfl | ho
    · exact ⟨h, _, List.mem_cons_self _ _, by rw [with_history_eq hh], hs⟩
    · obtain ⟨h'', x, hx, rfl, hs''⟩ := ih hh' hs' (fun x hx => by
        rw [gates_with_history]; exact hrun x (List.mem_cons_of_mem _ hx)) o ho
      exact ⟨h'', x, List.mem_cons_of_mem _ hx, rfl, hs''⟩

/-- In a run of relays on one session key that all pass the gates and get a 200, from a
session of whole pairs: each relay starts from a store whose session holds whole pairs, at most
`max_turns`, and leaves it so. It forwards the last `2 * max_turns - 1` turns of the session
after the sweep, then the current user turn; the list starts with a user turn exactly when it
is shorter than `2 * max_turns`. When the session held `max_turns` pairs after the sweep, the
list has `2 * max_turns` entries and starts with the reply of the oldest pair, whose user turn
`append_user` dropped. -/
theorem relay_run_keeps_pairs (p : WebhookRelayPipeline) (k : String) (maxTurns : Nat)
    (hm : 1 ≤ maxTurns) (h₀ : ConversationHistory) (hh : p.conversationHistory = some h₀)
    (hmax : h₀.maxMessages = maxTurns * 2)
    (hinit : Paired (h₀.get k) ∧ (h₀.get k).length ≤ 2 * maxTurns)
    (run : List (WebhookMessage × Clocks × WebhookResponse))
    (hrun : ∀ x ∈ run, sessionKey x.1 = k ∧
      (∃ cleanText c, gates p x.1 = .ok (cleanText, c)) ∧ x.2.2.statusCode = 200) :
    ∀ o ∈ relaySeq p run, ∃ h, ∃ x ∈ run,
      o = relay { p with conversationHistory := some h } (fun _ => x.2.2) x.1 x.2.1 ∧
      Paired (h.get k) ∧ (h.get k).length ≤ 2 * maxTurns ∧
      (∃ h', o.history = some h' ∧ Paired (h'.get k) ∧ (h'.get k).length ≤ 2 * maxTurns) ∧
      ∀ body, Call.forward body ∈ o.calls →
        (∃ content, body.messages =
          (((h.evictStaleSessions x.2.1.sweep).get k).rtake (2 * maxTurns - 1)).map
            ChatTurn.toMessage ++ [⟨.user, content⟩]) ∧
        (body.messages.head?.map Message.role = some .user ↔
          body.messages.length < 2 * maxTurns) ∧
        (((h.evictStaleSessions x.2.1.sweep).get k).length = 2 * maxTurns →
          body.messages.length = 2 * maxTurns ∧
          ∃ u a rest, (h.evictStaleSessions x.2.1.sweep).get k = u :: a :: rest ∧
            u.role = .user ∧ a.role = .assistant ∧ Paired rest ∧
            body.messages.head? = some (ChatTurn.toMessage a)) := by
  intro o ho
  obtain ⟨h, x, hx, rfl, hs⟩ := relaySeq_paired hm run hh ⟨hmax, hinit⟩ hrun o ho
  obtain ⟨rfl, ⟨cleanText, c, hg⟩, h200⟩ := hrun x hx
  obtain ⟨⟨h', hh', hs'⟩, hfwd⟩ :=
    relay_step_paired (p := { p with conversationHistory := some h }) x.2.1 hg rfl hm hs h200
  obtain ⟨hH, hlen⟩ := hs.sweep x.2.1.sweep
  refine ⟨h, x, hx, rfl, hs.2.1, hs.2.2, ⟨h', hh', hs'.2⟩, fun body hb => ?_⟩
  obtain ⟨content, hbody⟩ := hfwd body hb
  rw [hbody]
  exact ⟨⟨content, rfl⟩, hH.forwarded_head_user_iff hm hlen content,
    fun hfull => hH.forwarded_full hm hfull content⟩

theorem relay_run_keeps_pairs_two_relays :
    let p : WebhookRelayPipeline :=
      ⟨fun s => .ok s, "", "", none, none, none, false, some (ConversationHistory.new 1)⟩
    let m : WebhookMessage := { source := "telegram", text := "hi", senderId := "u1" }
    let run : List (WebhookMessage × Clocks × WebhookResponse) :=
      [(m, ⟨0, 0, 0⟩, ⟨"ok", 200⟩), (m, ⟨0, 0, 0⟩, ⟨"ok", 200⟩)]
    (1 ≤ 1 ∧ p.conversationHistory = some (ConversationHistory.new 1) ∧
      (ConversationHistory.new 1).maxMessages = (1 : Nat) * 2 ∧
      (Paired ((ConversationHistory.new 1).get "telegram:u1") ∧
        ((ConversationHistory.new 1).get "telegram:u1").length ≤ 2 * 1) ∧
      ∀ x ∈ run, sessionKey x.1 = "telegram:u1" ∧
        (∃ cleanText c, gates p x.1 = .ok (cleanText, c)) ∧ x.2.2.statusCode = 200) ∧
    ∀ o ∈ relaySeq p run, ∃ h, ∃ x ∈ run,
      o = relay { p with conversationHistory := some h } (fun _ => x.2.2) x.1 x.2.1 ∧
      Paired (h.get "telegram:u1") ∧ (h.get "telegram:u1").length ≤ 2 * 1 ∧
      (∃ h', o.history = some h' ∧ Paired (h'.get "telegram:u1") ∧
        (h'.get "telegram:u1").length ≤ 2 * 1) ∧
      ∀ body, Call.forward body ∈ o.calls →
        (∃ content, body.messages =
          (((h.evictStaleSessions x.2.1.sweep).get "telegram:u1").rtake (2 * 1 - 1)).map
            ChatTurn.toMessage ++ [⟨.user, content⟩]) ∧
        (body.messages.head?.map Message.role = some .user ↔ body.messages.length < 2 * 1) ∧
        (((h.evictStaleSessions x.2.1.sweep).get "telegram:u1").length = 2 * 1 →
          body.messages.length = 2 * 1 ∧
          ∃ u a rest, (h.evictStaleSessions x.2.1.sweep).get "telegram:u1" = u :: a :: rest ∧
            u.role = .user ∧ a.role = .assistant ∧ Paired rest ∧
            body.messages.head? = some (ChatTurn.toMessage a)) := by
  intro p m run
  have hrun : ∀ x ∈ run, sessionKey x.1 = "telegram:u1" ∧
      (∃ cleanText c, gates p x.1 = .ok (cleanText, c)) ∧ x.2.2.statusCode = 200 := by
    intro x hx
    simp only [run, List.mem_cons, List.mem_singleton, List.not_mem_nil, or_false] at hx
    rcases hx with rfl | rfl <;> exact ⟨by decide, ⟨_, _, rfl⟩, rfl⟩
  exact ⟨⟨by decide, rfl, rfl, by decide, hrun⟩,
    relay_run_keeps_pairs p _ 1 (by decide) _ rfl rfl (by decide) run hrun⟩

/-- With `max_turns = 1`, the second relay on a session forwards the first reply before the
current user turn. -/
theorem full_session_forwards_reply_first :
    let p : WebhookRelayPipeline :=
      ⟨fun s => .ok s, "", "", none, none, none, false, some (ConversationHistory.new 1)⟩
    let m : WebhookMessage := { source := "telegram", text := "hi", senderId := "u1" }
    let run : List (WebhookMessage × Clocks × WebhookResponse) :=
      [(m, ⟨0, 0, 0⟩, ⟨"ok", 200⟩), (m, ⟨0, 0, 0⟩, ⟨"ok", 200⟩)]
    ∃ o ∈ relaySeq p run, ∃ body, Call.forward body ∈ o.calls ∧
      body.messages.map Message.role = [.assistant, .user] := by
  intro p m run
  let p' : WebhookRelayPipeline :=
    { p with conversationHistory := (relay p (fun _ => ⟨"ok", 200⟩) m ⟨0, 0, 0⟩).history }
  have hg : gates p' m = .ok ("hi", [.sanitize "hi"]) := rfl
  refine ⟨relay p' (fun _ => ⟨"ok", 200⟩) m ⟨0, 0, 0⟩, .tail _ (.head _),
    requestBody m "hi" (historyMessages p' m "hi" ⟨0, 0, 0⟩).1, ?_, by decide⟩
  rw [relay_of_gates_ok hg]
  simp

end WebhookRelay.Relay
