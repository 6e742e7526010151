import WebhookRelay.Relay.Pipeline

/-!
# The gates short-circuit

`Rejects` lists the early returns of `relay` stage by stage, each with its response and the
calls made up to it; `gates_eq_error_iff` says the code's gates return early exactly there.
A rejected relay then changes nothing and calls nothing further (`relay_of_rejects`); an
accepted one calls the upstream once, returns its response, and touches the history store
only through `append_user` before that call and `append_assistant` after it, on status 200.
-/

namespace WebhookRelay.Relay

open Python History

/-- The early returns of `relay`, with the calls made before each. -/
inductive Rejects (p : WebhookRelayPipeline) (m : WebhookMessage) :
    WebhookResponse → List Call → Prop
  | tooLarge : bodySize m > maxBodySize → Rejects p m ⟨"Request body too large", 413⟩ []
  | injection (e : PromptInjectionError) : bodySize m ≤ maxBodySize →
      p.sanitizer m.text = .error e →
      Rejects p m ⟨"Request rejected due to policy violation", 400⟩ [.sanitize m.text]
  | block (cleanText : String) (g : GovernanceMiddleware) : bodySize m ≤ maxBodySize →
      p.sanitizer m.text = .ok cleanText → p.governance = some g →
      (g.evaluate (governanceBody m cleanText) m.senderId).decision = .block →
      Rejects p m ⟨"Blocked by governance policy", 403⟩
        (.sanitize m.text :: governanceCalls p g m cleanText)
  | requireApproval (cleanText : String) (g : GovernanceMiddleware) : bodySize m ≤ maxBodySize →
      p.sanitizer m.text = .ok cleanText → p.governance = some g →
      (g.evaluate (governanceBody m cleanText) m.senderId).decision = .requireApproval →
      Rejects p m ⟨"Approval required (ID: " ++
          (g.evaluate (governanceBody m cleanText) m.senderId).approvalId.getD "None" ++ ")", 202⟩
        (.sanitize m.text :: governanceCalls p g m cleanText)
  | quarantined (cleanText : String) (isQuarantined : PyValue → Bool) :
      bodySize m ≤ maxBodySize → p.sanitizer m.text = .ok cleanText →
      (governanceCheck p m cleanText).1 = none → p.quarantineManager = some isQuarantined →
      (skillName m).truthy → isQuarantined (skillName m) →
      Rejects p m ⟨"Skill '" ++ (skillName m).toStr ++ "' is quarantined", 403⟩
        (.sanitize m.text :: (governanceCheck p m cleanText).2 ++ [.isQuarantined (skillName m)])

/-- Calls on the upstream. -/
def Call.isForward : Call → Bool
  | .forward _ => true
  | _ => false

/-- Calls on the history store. -/
def Call.isStoreCall : Call → Bool
  | .appendUser .. | .get _ | .appendAssistant .. => true
  | _ => false

variable {p : WebhookRelayPipeline} {m : WebhookMessage}

theorem governanceCheck_eq_some {cleanText : String} {r : WebhookResponse} {c : List Call}
    (h : governanceCheck p m cleanText = (some r, c)) :
    ∃ g, p.governance = some g ∧ c = governanceCalls p g m cleanText ∧
      (((g.evaluate (governanceBody m cleanText) m.senderId).decision = .block ∧
          r = ⟨"Blocked by governance policy", 403⟩) ∨
        ((g.evaluate (governanceBody m cleanText) m.senderId).decision = .requireApproval ∧
          r = ⟨"Approval required (ID: " ++
            (g.evaluate (governanceBody m cleanText) m.senderId).approvalId.getD "None" ++ ")",
            202⟩)) := by
  unfold governanceCheck at h
  split at h
  · cases h
  · rename_i g hg
    refine ⟨g, hg, ?_⟩
    cases hd : (g.evaluate (governanceBody m cleanText) m.senderId).decision <;> simp_all

theorem quarantineCheck_eq_some {r : WebhookResponse} {c : List Call}
    (h : quarantineCheck p m = (some r, c)) :
    ∃ q, p.quarantineManager = some q ∧ (skillName m).truthy ∧ q (skillName m) ∧
      r = ⟨"Skill '" ++ (skillName m).toStr ++ "' is quarantined", 403⟩ ∧
      c = [.isQuarantined (skillName m)] := by
  unfold quarantineCheck at h
  split at h
  · cases h
  · rename_i q hq
    split_ifs at h with h1 h2 <;> simp_all

/-- The code's gates return early exactly as `Rejects` says. -/
theorem gates_eq_error_iff (r : WebhookResponse) (c : List Call) :
    gates p m = .error (r, c) ↔ Rejects p m r c := by
  constructor
  · intro h
    unfold gates at h
    split_ifs at h with hsize
    · cases h; exact .tooLarge hsize
    · have hs : bodySize m ≤ maxBodySize := Nat.le_of_not_gt hsize
      split at h
      · rename_i e he; cases h; exact .injection e hs he
      · rename_i clean hc
        split at h
        · rename_i r' gc hg
          cases h
          obtain ⟨g, hg', rfl, ⟨hd, rfl⟩ | ⟨hd, rfl⟩⟩ := governanceCheck_eq_some hg
          · exact .block clean g hs hc hg' hd
          · exact .requireApproval clean g hs hc hg' hd
        · rename_i gc hg
          split at h
          · rename_i r' qc hq
            cases h
            obtain ⟨q, hq', ht, hqs, rfl, rfl⟩ := quarantineCheck_eq_some hq
            have : gc = (governanceCheck p m clean).2 := by rw [hg]
            subst this
            exact .quarantined clean q hs hc (by rw [hg]) hq' ht hqs
          · cases h
  · intro h
    cases h with
    | tooLarge hs => simp [gates, hs]
    | injection e hs he => simp [gates, he, Nat.not_lt.2 hs]
    | block clean g hs hc hg hd => simp [gates, hc, Nat.not_lt.2 hs, governanceCheck, hg, hd]
    | requireApproval clean g hs hc hg hd =>
      simp [gates, hc, Nat.not_lt.2 hs, governanceCheck, hg, hd]
    | quarantined clean q hs hc hg hq ht hqs =>
      rcases hgc : governanceCheck p m clean with ⟨r', gc⟩
      simp only [hgc] at hg
      subst hg
      simp [gates, hc, Nat.not_lt.2 hs, hgc, quarantineCheck, hq, ht, hqs]

/-! ## The calls of each stage -/

theorem governanceCalls_filter (g : GovernanceMiddleware) (cleanText : String) :
    (governanceCalls p g m cleanText).filter Call.isForward = [] ∧
      (governanceCalls p g m cleanText).filter Call.isStoreCall = [] := by
  unfold governanceCalls; split_ifs <;> simp [Call.isForward, Call.isStoreCall]

/-- Stage 2.5 makes the same calls whatever the decision. -/
theorem governanceCheck_snd (cleanText : String) :
    (governanceCheck p m cleanText).2 = match p.governance with
      | some g => governanceCalls p g m cleanText
      | none => [] := by
  unfold governanceCheck
  split <;> rename_i hg
  · simp [hg]
  · dsimp only; split <;> simp [hg]

theorem governanceCheck_filter (cleanText : String) :
    (governanceCheck p m cleanText).2.filter Call.isForward = [] ∧
      (governanceCheck p m cleanText).2.filter Call.isStoreCall = [] := by
  rw [governanceCheck_snd]
  split
  · exact governanceCalls_filter _ cleanText
  · simp

theorem quarantineCheck_filter :
    (quarantineCheck p m).2.filter Call.isForward = [] ∧
      (quarantineCheck p m).2.filter Call.isStoreCall = [] := by
  unfold quarantineCheck; split <;> try split_ifs
  all_goals simp [Call.isForward, Call.isStoreCall]

/-- What gates that let a message through did: the sanitizer passed, then the governance and
quarantine calls. -/
theorem gates_eq_ok_calls {cleanText : String} {c : List Call}
    (h : gates p m = .ok (cleanText, c)) : p.sanitizer m.text = .ok cleanText ∧
      c = .sanitize m.text :: (governanceCheck p m cleanText).2 ++ (quarantineCheck p m).2 := by
  unfold gates at h
  split_ifs at h
  split at h
  · cases h
  · rename_i clean hc
    rcases hg : governanceCheck p m clean with ⟨_ | r, gc⟩ <;> simp only [hg] at h
    · rcases hq : quarantineCheck p m with ⟨_ | r', qc⟩ <;> simp only [hq] at h
      · simp only [Except.ok.injEq, Prod.mk.injEq] at h
        obtain ⟨rfl, rfl⟩ := h
        simp [hc, hg, hq]
      · cases h
    · cases h

/-- The gates call only the sanitizer, governance, the audit logger and the quarantine. -/
theorem gates_eq_ok {cleanText : String} {c : List Call} (h : gates p m = .ok (cleanText, c)) :
    p.sanitizer m.text = .ok cleanText ∧ c.filter Call.isForward = [] ∧
      c.filter Call.isStoreCall = [] := by
  obtain ⟨hc, rfl⟩ := gates_eq_ok_calls h
  obtain ⟨gf, gs⟩ := governanceCheck_filter (p := p) (m := m) cleanText
  obtain ⟨qf, qs⟩ := quarantineCheck_filter (p := p) (m := m)
  simp [hc, List.filter_append, gf, gs, qf, qs, Call.isForward, Call.isStoreCall]

theorem scanCalls_filter (resp : WebhookResponse) :
    (scanCalls p m resp).filter Call.isForward = [] ∧
      (scanCalls p m resp).filter Call.isStoreCall = [] := by
  unfold scanCalls; split <;> try split_ifs
  all_goals simp [Call.isForward, Call.isStoreCall]

/-- After the upstream answered: the assistant append on 200 only, then the scan and audit. -/
theorem relayFinish_spec (sessionId : String) (resp : WebhookResponse) (stamp : Int) :
    (relayFinish p m sessionId resp stamp).1 = p.conversationHistory.map (fun h =>
        if resp.statusCode = 200 then h.appendAssistant sessionId resp.text stamp else h) ∧
      (relayFinish p m sessionId resp stamp).2.filter Call.isForward = [] ∧
      (relayFinish p m sessionId resp stamp).2.filter Call.isStoreCall =
        if p.conversationHistory.isSome ∧ resp.statusCode = 200 then
          [.appendAssistant sessionId resp.text] else [] := by
  obtain ⟨h1, h2⟩ := scanCalls_filter (p := p) (m := m) resp
  unfold relayFinish
  cases p.conversationHistory <;> by_cases h200 : resp.statusCode = 200 <;> cases p.auditLogger <;>
    simp [h200, List.filter_append, h1, h2, Call.isForward, Call.isStoreCall]

/-! ## Whole relays -/

variable {forward : ChatRequest → WebhookResponse} {clk : Clocks}

/-- The gates do not read the store. -/
theorem gates_with_history (p : WebhookRelayPipeline) (o : Option ConversationHistory)
    (m : WebhookMessage) : gates { p with conversationHistory := o } m = gates p m := rfl

theorem relayBegin_of_gates_error {r : WebhookResponse} {c : List Call}
    (h : gates p m = .error (r, c)) : relayBegin p m clk = ⟨.error r, p.conversationHistory, c⟩ := by
  simp [relayBegin, h]

theorem relay_of_gates_error {r : WebhookResponse} {c : List Call}
    (h : gates p m = .error (r, c)) : relay p forward m clk = ⟨r, p.conversationHistory, c⟩ := by
  simp [relay, relayBegin, h]

theorem relayBegin_of_gates_ok {cleanText : String} {c : List Call}
    (h : gates p m = .ok (cleanText, c)) :
    relayBegin p m clk = ⟨.ok ⟨sessionKey m,
        requestBody m cleanText (historyMessages p m cleanText clk).1⟩,
      (historyMessages p m cleanText clk).2.1, c ++ (historyMessages p m cleanText clk).2.2⟩ := by
  simp [relayBegin, h]

theorem relay_of_gates_ok {cleanText : String} {c : List Call}
    (h : gates p m = .ok (cleanText, c)) :
    relay p forward m clk =
      let hm := historyMessages p m cleanText clk
      let body := requestBody m cleanText hm.1
      let fin := relayFinish { p with conversationHistory := hm.2.1 } m (sessionKey m)
        (forward body) clk.assistant
      ⟨forward body, fin.1, c ++ hm.2.2 ++ .forward body :: fin.2⟩ := by
  simp [relay, relayBegin, h]

theorem historyMessages_spec (cleanText : String) :
    (historyMessages p m cleanText clk).2.1 = p.conversationHistory.map (fun h =>
        h.appendUser (sessionKey m) (historyText cleanText m.attachments) clk.sweep clk.user) ∧
      (historyMessages p m cleanText clk).2.2 = if p.conversationHistory.isSome then
        [.appendUser (sessionKey m) (historyText cleanText m.attachments), .get (sessionKey m)]
        else [] := by
  unfold historyMessages; cases p.conversationHistory <;> simp

/-- The store after an accepted relay: `append_user`, then `append_assistant` on status 200. -/
theorem relay_history_of_gates_ok {cleanText : String} {c : List Call}
    (hg : gates p m = .ok (cleanText, c)) :
    (relay p forward m clk).history = p.conversationHistory.map fun h =>
      let h' := h.appendUser (sessionKey m) (historyText cleanText m.attachments) clk.sweep clk.user
      let resp := forward (requestBody m cleanText (historyMessages p m cleanText clk).1)
      if resp.statusCode = 200 then h'.appendAssistant (sessionKey m) resp.text clk.assistant
      else h' := by
  rw [relay_of_gates_ok hg]
  dsimp only
  rw [(relayFinish_spec _ _ _).1, (historyMessages_spec cleanText).1]
  cases p.conversationHistory <;> simp

/-- `relay` short-circuits. A rejected message gets its stage's response with only the calls
of the stages up to it, none on the upstream or the store, and the store is untouched. Any
other message goes upstream exactly once, the answer is returned as it is, and the store sees
`append_user(session, summary)` before that call and, on status 200 only,
`append_assistant(session, reply)` after it. -/
theorem relay_short_circuits (p : WebhookRelayPipeline) (forward : ChatRequest → WebhookResponse)
    (m : WebhookMessage) (clk : Clocks) :
    (∀ r c, Rejects p m r c →
      relay p forward m clk = ⟨r, p.conversationHistory, c⟩ ∧
        c.filter Call.isForward = [] ∧ c.filter Call.isStoreCall = []) ∧
    ((∀ r c, ¬ Rejects p m r c) →
      ∃ cleanText body pre post, p.sanitizer m.text = .ok cleanText ∧
        (relay p forward m clk).response = forward body ∧
        (relay p forward m clk).calls = pre ++ .forward body :: post ∧
        pre.filter Call.isForward = [] ∧ post.filter Call.isForward = [] ∧
        pre.filter Call.isStoreCall = (if p.conversationHistory.isSome then
          [.appendUser (sessionKey m) (historyText cleanText m.attachments), .get (sessionKey m)]
          else []) ∧
        post.filter Call.isStoreCall =
          (if p.conversationHistory.isSome ∧ (forward body).statusCode = 200 then
            [.appendAssistant (sessionKey m) (forward body).text] else []) ∧
        (relay p forward m clk).history = p.conversationHistory.map fun h =>
          let h' := h.appendUser (sessionKey m) (historyText cleanText m.attachments)
            clk.sweep clk.user
          if (forward body).statusCode = 200 then
            h'.appendAssistant (sessionKey m) (forward body).text clk.assistant
          else h') := by
  refine ⟨fun r c hr => ?_, fun hnot => ?_⟩
  · refine ⟨relay_of_gates_error ((gates_eq_error_iff r c).2 hr), ?_⟩
    cases hr <;> simp [Call.isForward, Call.isStoreCall, governanceCalls_filter,
      governanceCheck_filter]
  · obtain ⟨cleanText, c, hg⟩ : ∃ cleanText c, gates p m = .ok (cleanText, c) := by
      rcases hg : gates p m with ⟨r, c⟩ | ⟨cleanText, c⟩
      · exact absurd ((gates_eq_error_iff r c).1 hg) (hnot r c)
      · exact ⟨cleanText, c, rfl⟩
    obtain ⟨hs, hf, hst⟩ := gates_eq_ok hg
    obtain ⟨hh1, hh2⟩ := @historyMessages_spec p m clk cleanText
    have hrel := @relay_of_gates_ok p m forward clk _ _ hg
    set body := requestBody m cleanText (historyMessages p m cleanText clk).1
    obtain ⟨-, hfin2, hfin3⟩ := relayFinish_spec
      (p := { p with conversationHistory := (historyMessages p m cleanText clk).2.1 }) (m := m)
      (sessionKey m) (forward body) clk.assistant
    rw [hrel]
    refine ⟨cleanText, body, c ++ (historyMessages p m cleanText clk).2.2, _, hs, rfl, rfl, ?_,
      hfin2, ?_, ?_, ?_⟩
    · rw [hh2]; split_ifs <;> simp [hf, Call.isForward]
    · rw [hh2, List.filter_append, hst]; split_ifs <;> simp [Call.isStoreCall]
    · rw [hfin3]; simp only [hh1]; cases p.conversationHistory <;> simp
    · rw [← hrel]; exact relay_history_of_gates_ok hg

end WebhookRelay.Relay
