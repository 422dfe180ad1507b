import BurntSushi.Lts
import BurntSushi.Blocker.Session

/-! Which logger of a server receives which log event. -/
namespace BurntSushi.Blocker

namespace Session

/-- The event that the channel task takes in a step. -/
def taken (s : Session) : SessionLabel → Option LogParams
  | .forward _ => do
    let tx ← s.server.logger.logTx
    (s.dll.channels.channel tx).queue.head?
  | _ => none

/-- The calls a step makes to loggers. -/
def calls (s : Session) (l : SessionLabel) : List LogCall :=
  match s.server.logger.logTx, s.taken l with
  | some tx, some params => (s.dll.channels.channel tx).this.forward params
  | _, _ => []

end Session

/-- The event that a step sends to the server's log channel. -/
def Session.sent (s : Session) : SessionLabel → Option LogParams
  | .event hook params =>
    match (s.dll.hooks.detour hook).captured?, s.server.logger.logTx with
    | some c, some tx => if c.logTx = tx then some params else none
    | _, _ => none
  | _ => none

namespace SessionLabel

/-- The logger whose `register_logger` request the step handles. -/
def registered : SessionLabel → Option Logger
  | .request (.registerLogger params) => params.read.toOption
  | _ => none

def isEnableFiltering : SessionLabel → Bool
  | .request (.enableFiltering _) => true
  | _ => false

/-- The loggers that answer the calls of a step. -/
def answers : SessionLabel → Logger → Bool
  | .forward answers => answers
  | _ => fun _ => false

end SessionLabel

/-- What happened on one server. -/
abbrev SessionTrail := List (Session × SessionLabel)

namespace SessionTrail

/-- The events taken from the log channel. -/
def taken (tr : SessionTrail) : List LogParams := tr.filterMap fun x => x.1.taken x.2

/-- The events sent to the log channel. -/
def sent (tr : SessionTrail) : List LogParams := tr.filterMap fun x => x.1.sent x.2

/-- The events that reach a logger. -/
def received (logger : Logger) (tr : SessionTrail) : List LogParams :=
  tr.flatMap fun x =>
    (x.1.calls x.2).filterMap fun call =>
      if call.logger = logger ∧ x.2.answers logger = true then some call.params else none

/-- The events taken after the first registration of a logger. -/
def takenSince (logger : Logger) : SessionTrail → List LogParams
  | [] => []
  | (_, l) :: tr => if l.registered = some logger then taken tr else takenSince logger tr

/-- The loggers registered before the first `enable_filtering` request. -/
def earlyLoggers : SessionTrail → List Logger
  | [] => []
  | (_, l) :: tr =>
    if l.isEnableFiltering = true then [] else l.registered.toList ++ earlyLoggers tr

variable {tr : SessionTrail} {s : Session} {l : SessionLabel} {logger : Logger}

theorem taken_concat : taken (tr ++ [(s, l)]) = taken tr ++ (s.taken l).toList := by
  cases h : s.taken l <;> simp [taken, h]

theorem sent_concat : sent (tr ++ [(s, l)]) = sent tr ++ (s.sent l).toList := by
  cases h : s.sent l <;> simp [sent, h]

theorem received_concat : received logger (tr ++ [(s, l)]) = received logger tr ++
    (s.calls l).filterMap fun call =>
      if call.logger = logger ∧ l.answers logger = true then some call.params else none := by
  simp [received]

/-- Some step has handled a registration of the logger. -/
def Registered (logger : Logger) (tr : SessionTrail) : Prop :=
  ∃ x ∈ tr, x.2.registered = some logger

/-- Some step has handled an `enable_filtering` request. -/
def EnableRequested (tr : SessionTrail) : Prop := ∃ x ∈ tr, x.2.isEnableFiltering = true

theorem takenSince_concat (h : Registered logger tr) :
    takenSince logger (tr ++ [(s, l)]) = takenSince logger tr ++ (s.taken l).toList := by
  induction tr with
  | nil => simp [Registered] at h
  | cons x tr ih =>
    rw [List.cons_append, takenSince, takenSince]
    split
    · exact taken_concat
    · rename_i hx
      obtain ⟨y, hy, hr⟩ := h
      rcases List.mem_cons.mp hy with rfl | hy
      · exact absurd hr hx
      · exact ih ⟨y, hy, hr⟩

theorem earlyLoggers_concat_of_requested (h : EnableRequested tr) :
    earlyLoggers (tr ++ [(s, l)]) = earlyLoggers tr := by
  induction tr with
  | nil => simp [EnableRequested] at h
  | cons x tr ih =>
    rw [List.cons_append, earlyLoggers, earlyLoggers]
    split
    · rfl
    · rename_i hx
      obtain ⟨y, hy, he⟩ := h
      rcases List.mem_cons.mp hy with rfl | hy
      · exact absurd he hx
      · rw [ih ⟨y, hy, he⟩]

theorem earlyLoggers_concat (h : ¬ EnableRequested tr) (hl : l.isEnableFiltering = false) :
    earlyLoggers (tr ++ [(s, l)]) = earlyLoggers tr ++ l.registered.toList := by
  induction tr with
  | nil => simp [earlyLoggers, hl]
  | cons x tr ih =>
    have hx : ¬ x.2.isEnableFiltering = true := fun hx => h ⟨x, by simp, hx⟩
    rw [List.cons_append, earlyLoggers, earlyLoggers, if_neg hx, if_neg hx,
      ih fun ⟨y, hy, he⟩ => h ⟨y, by simp [hy], he⟩, List.append_assoc]

theorem earlyLoggers_concat_enable (h : ¬ EnableRequested tr) (hl : l.isEnableFiltering = true) :
    earlyLoggers (tr ++ [(s, l)]) = earlyLoggers tr := by
  induction tr with
  | nil => simp [earlyLoggers, hl]
  | cons x tr ih =>
    have hx : ¬ x.2.isEnableFiltering = true := fun hx => h ⟨x, by simp, hx⟩
    rw [List.cons_append, earlyLoggers, earlyLoggers, if_neg hx, if_neg hx,
      ih fun ⟨y, hy, he⟩ => h ⟨y, by simp [hy], he⟩]

theorem mem_earlyLoggers (h : logger ∈ earlyLoggers tr) : Registered logger tr := by
  induction tr with
  | nil => simp [earlyLoggers] at h
  | cons x tr ih =>
    rw [earlyLoggers] at h
    split at h
    · simp at h
    · rcases List.mem_append.mp h with h | h
      · exact ⟨x, by simp, by simpa using h⟩
      · obtain ⟨y, hy, hr⟩ := ih h
        exact ⟨y, by simp [hy], hr⟩

end SessionTrail

open SessionTrail

/-- The channel task knows the loggers registered before the first `enable_filtering`; before
that request there is no channel. -/
structure Forwarding (tr : SessionTrail) (s : Session) : Prop where
  unopened : s.server.logger.logTx = none →
    ¬ EnableRequested tr ∧ s.server.logger.loggers = earlyLoggers tr ∧ tr.taken = [] ∧
      tr.sent = []
  opened : ∀ tx, s.server.logger.logTx = some tx →
    EnableRequested tr ∧ (s.dll.channels.channel tx).this.loggers = earlyLoggers tr ∧
      tr.taken ++ (s.dll.channels.channel tx).queue = tr.sent

variable {R : Regex} {tr : SessionTrail} {s t : Session} {l : SessionLabel} {logger : Logger}

theorem loggers_registerLogger (p : RegisterLoggerParams) :
    (s.registerLogger p).1.server.logger.loggers =
      s.server.logger.loggers ++ (SessionLabel.request (.registerLogger p)).registered.toList := by
  simp only [Session.registerLogger, SessionLabel.registered]
  cases p.read <;> simp [LoggerManager.addLogger, Except.toOption]

theorem enableRequested_concat :
    EnableRequested (tr ++ [(s, l)]) ↔ EnableRequested tr ∨ l.isEnableFiltering = true := by
  simp [EnableRequested, or_and_right, exists_or]

/-- A step that is no `enable_filtering` request, from what it does to the open channel. -/
theorem Forwarding.frame (h : Forwarding tr s) (hl : l.isEnableFiltering = false)
    (htx : t.server.logger.logTx = s.server.logger.logTx)
    (hloggers : t.server.logger.loggers = s.server.logger.loggers ++ l.registered.toList)
    (hnone : s.server.logger.logTx = none → s.taken l = none ∧ s.sent l = none)
    (hsome : ∀ tx, s.server.logger.logTx = some tx →
      (t.dll.channels.channel tx).this = (s.dll.channels.channel tx).this ∧
      (s.taken l).toList ++ (t.dll.channels.channel tx).queue =
        (s.dll.channels.channel tx).queue ++ (s.sent l).toList) :
    Forwarding (tr ++ [(s, l)]) t where
  unopened ht := by
    rw [htx] at ht
    obtain ⟨he, hlog, htk, hst⟩ := h.unopened ht
    obtain ⟨htk', hst'⟩ := hnone ht
    rw [enableRequested_concat, earlyLoggers_concat he hl, taken_concat, sent_concat, hloggers,
      hlog, htk, hst, htk', hst', hl]
    exact ⟨by simpa using he, rfl, rfl, rfl⟩
  opened tx ht := by
    rw [htx] at ht
    obtain ⟨he, hlog, hq⟩ := h.opened tx ht
    obtain ⟨hthis, hqueue⟩ := hsome tx ht
    rw [enableRequested_concat, earlyLoggers_concat_of_requested he, taken_concat, sent_concat,
      hthis, ← hq, List.append_assoc, hqueue, List.append_assoc]
    exact ⟨.inl he, hlog, rfl⟩

/-- A request that does not touch the channel. -/
theorem Forwarding.frame_request {r : Request} (h : Forwarding tr s)
    (hl : (SessionLabel.request r).isEnableFiltering = false)
    (htx : t.server.logger.logTx = s.server.logger.logTx)
    (hloggers : t.server.logger.loggers =
      s.server.logger.loggers ++ (SessionLabel.request r).registered.toList)
    (hch : t.dll.channels = s.dll.channels) : Forwarding (tr ++ [(s, .request r)]) t :=
  h.frame hl htx hloggers (fun _ => ⟨rfl, rfl⟩)
    (fun _ _ => by simp [hch, Session.taken, Session.sent])

theorem forwarding_enable (h : Forwarding tr s) (env : HookEnv) :
    Forwarding (tr ++ [(s, .request (.enableFiltering env))]) (s.enableFiltering env).1 where
  unopened ht := by simp [Session.logger_enableFiltering] at ht
  opened tx ht := by
    rw [Session.logger_enableFiltering, LoggerManager.logTx_logSender, Option.some.injEq] at ht
    rw [Session.channels_enableFiltering, taken_concat, sent_concat]
    refine ⟨enableRequested_concat.mpr (.inr rfl), ?_⟩
    cases htx : s.server.logger.logTx with
    | none =>
      obtain ⟨he, hlog, htk, hst⟩ := h.unopened htx
      rw [LoggerManager.logSender_of_none htx] at ht ⊢
      subst ht
      simp [earlyLoggers_concat_enable (l := .request (.enableFiltering env)) he rfl, hlog, htk,
        hst, Session.taken, Session.sent]
    | some tx' =>
      obtain ⟨he, hlog, hq⟩ := h.opened tx' htx
      rw [LoggerManager.logSender_of_some htx] at ht ⊢
      subst ht
      simp [earlyLoggers_concat_of_requested he, hlog, ← hq, Session.taken, Session.sent]

theorem forwarding_step (h : Forwarding tr s) (hs : s.step R l = some t) :
    Forwarding (tr ++ [(s, l)]) t := by
  cases l with
  | request r =>
    obtain rfl : (s.handle R r).1 = t := by simpa [Session.step] using hs
    cases r with
    | registerLogger p =>
      exact h.frame_request rfl (Session.logTx_registerLogger p) (loggers_registerLogger p)
        (by simp [Session.handle])
    | setRuleset p =>
      exact h.frame_request rfl (by simp [Session.handle])
        (by simp [Session.handle, SessionLabel.registered]) (by simp [Session.handle])
    | enableFiltering env => exact forwarding_enable h env
    | disableFiltering env =>
      exact h.frame_request rfl (by simp [Session.handle])
        (by simp [Session.handle, SessionLabel.registered]) (by simp [Session.handle])
  | event hook params =>
    obtain ⟨c, hc, rfl⟩ := Option.map_eq_some_iff.mp hs
    refine h.frame rfl rfl (by simp [SessionLabel.registered]) ?_ ?_
    · intro ht
      simp [Session.taken, Session.sent, hc, ht]
    · intro tx ht
      refine ⟨Channels.this_send .., ?_⟩
      by_cases hx : c.logTx = tx
      · subst hx
        simp [Session.taken, Session.sent, hc, ht, Channels.send]
      · simp [Session.taken, Session.sent, hc, ht, Channels.send, hx, Ne.symm hx]
  | forward answers =>
    obtain ⟨tx, htx, hs⟩ := Option.bind_eq_some_iff.mp hs
    obtain ⟨⟨params, channels⟩, hrecv, hs⟩ := Option.bind_eq_some_iff.mp hs
    obtain rfl := Option.some.inj hs
    refine h.frame rfl rfl (by simp [SessionLabel.registered]) ?_ ?_
    · intro ht
      simp [htx] at ht
    · intro tx' ht
      obtain rfl := Option.some.inj (htx.symm.trans ht)
      obtain ⟨hq, hthis⟩ := Channels.recv_eq_some hrecv
      refine ⟨hthis tx, ?_⟩
      simp [Session.taken, Session.sent, htx, hq]

theorem forwarding_trace {dll : Dll} (h : Lts.Trace (Session.step R) (.new dll) tr s) :
    Forwarding tr s := by
  induction h with
  | refl =>
    exact ⟨fun _ => ⟨by simp [EnableRequested], rfl, rfl, rfl⟩, fun tx ht => by
      simp [Session.new, ServerImpl.new, LoggerManager.new] at ht⟩
  | snoc _ hs ih => exact forwarding_step ih hs

/-- A logger that answers is called once for each time it stands in the list. -/
theorem filterMap_forward (loggers : List Logger) (params : LogParams) :
    (loggers.map (LogCall.mk · params)).filterMap
        (fun call => if call.logger = logger then some call.params else none) =
      List.replicate (loggers.count logger) params := by
  induction loggers with
  | nil => rfl
  | cons x xs ih =>
    by_cases hx : x = logger
    · simp [hx, ih, List.replicate_succ]
    · simp [hx, ih]

/-- The calls to this logger never fail; those to others may. -/
def Answers (logger : Logger) (tr : SessionTrail) : Prop :=
  ∀ x ∈ tr, ∀ answers, x.2 = .forward answers → answers logger = true

theorem received_step (hf : Forwarding tr s)
    (hl : ∀ answers, l = .forward answers → answers logger = true)
    (hr : tr.received logger =
      tr.taken.flatMap (List.replicate (tr.earlyLoggers.count logger))) :
    received logger (tr ++ [(s, l)]) = (taken (tr ++ [(s, l)])).flatMap
      (List.replicate ((earlyLoggers (tr ++ [(s, l)])).count logger)) := by
  rw [received_concat, taken_concat]
  cases htx : s.server.logger.logTx with
  | none =>
    obtain ⟨-, -, htk, -⟩ := hf.unopened htx
    have hnone : s.taken l = none := by cases l <;> simp [Session.taken, htx]
    simp [hr, htk, hnone, Session.calls]
  | some tx =>
    obtain ⟨he, hlog, -⟩ := hf.opened tx htx
    rw [earlyLoggers_concat_of_requested he, hr, List.flatMap_append]
    congr 1
    cases htk : s.taken l with
    | none => simp [Session.calls, htk]
    | some params =>
      obtain ⟨answers, rfl⟩ : ∃ answers, l = .forward answers := by
        cases l <;> simp [Session.taken] at htk ⊢
      simp only [Session.calls, htx, htk, LoggerManager.forward_eq_map, hlog,
        SessionLabel.answers, hl answers rfl, and_true, Option.toList_some,
        List.flatMap_singleton]
      exact filterMap_forward _ params

theorem received_eq {dll : Dll} (h : Lts.Trace (Session.step R) (.new dll) tr s)
    (ha : Answers logger tr) : tr.received logger =
      tr.taken.flatMap (List.replicate (tr.earlyLoggers.count logger)) := by
  induction h with
  | refl => rfl
  | snoc h _ ih =>
    refine received_step (forwarding_trace h) (ha _ (List.mem_concat_self ..)) (ih ?_)
    exact fun x hx => ha x (List.mem_append_left _ hx)

theorem takenSince_suffix (tr : SessionTrail) : takenSince logger tr <:+ taken tr := by
  induction tr with
  | nil => exact List.suffix_refl _
  | cons x tr ih =>
    have hx : taken tr <:+ taken (x :: tr) := by
      cases h : x.1.taken x.2 <;> simp [taken, h]
    rw [takenSince]
    split
    · exact hx
    · exact ih.trans hx

theorem taken_eq_nil {dll : Dll} (h : Lts.Trace (Session.step R) (.new dll) tr s)
    (he : ¬ EnableRequested tr) : tr.taken = [] := by
  have hf := forwarding_trace h
  cases htx : s.server.logger.logTx with
  | none => exact (hf.unopened htx).2.2.1
  | some tx => exact absurd (hf.opened tx htx).1 he

/-- A logger that was registered before the channel existed misses no event. -/
theorem takenSince_of_mem_earlyLoggers {dll : Dll}
    (h : Lts.Trace (Session.step R) (.new dll) tr s) (hm : logger ∈ tr.earlyLoggers) :
    tr.takenSince logger = tr.taken := by
  induction h with
  | refl => rfl
  | @snoc tr s t l h hs ih =>
    by_cases hm' : logger ∈ earlyLoggers tr
    · rw [takenSince_concat (mem_earlyLoggers hm'), taken_concat, ih hm']
    · have he : ¬ EnableRequested tr := by
        intro he
        rw [earlyLoggers_concat_of_requested he] at hm
        exact hm' hm
      have hl : l.registered = some logger := by
        by_cases hen : l.isEnableFiltering = true
        · rw [earlyLoggers_concat_enable he hen] at hm
          exact absurd hm hm'
        · rw [earlyLoggers_concat he (by simpa using hen)] at hm
          simpa [hm'] using hm
      have htk : s.taken l = none := by
        cases l <;> simp [SessionLabel.registered] at hl
        rfl
      have hnil : taken (tr ++ [(s, l)]) = [] := by
        simp [taken_concat, taken_eq_nil h he, htk]
      rw [hnil]
      exact List.suffix_nil.mp (hnil ▸ takenSince_suffix _)

theorem taken_prefix_sent {dll : Dll} (h : Lts.Trace (Session.step R) (.new dll) tr s) :
    tr.taken <+: tr.sent := by
  have hf := forwarding_trace h
  cases htx : s.server.logger.logTx with
  | none =>
    rw [(hf.unopened htx).2.2.1]
    exact List.nil_prefix
  | some tx => exact ⟨_, (hf.opened tx htx).2.2⟩

theorem flatMap_replicate_eq_self {α : Type} {xs : List α} {n : Nat} :
    xs.flatMap (List.replicate n) = xs ↔ xs = [] ∨ n = 1 := by
  constructor
  · intro h
    have hlen : xs.length * n = xs.length := by
      simpa [List.length_flatMap] using congrArg List.length h
    rcases xs with _ | ⟨x, xs⟩
    · exact .inl rfl
    · exact .inr (Nat.eq_of_mul_eq_mul_left (Nat.succ_pos _) (hlen.trans (Nat.mul_one _).symm))
  · rintro (rfl | rfl)
    · rfl
    · exact List.flatMap_singleton' xs

/-- A logger whose own calls succeed receives every event taken after its registration, exactly
once and in sending order, if and only if none was taken or it had been registered exactly once
before the first `enable_filtering` request. -/
theorem received_iff (R : Regex) (dll : Dll) (logger : Logger) {tr : SessionTrail} {s : Session}
    (h : Lts.Trace (Session.step R) (.new dll) tr s) (ha : Answers logger tr) :
    tr.received logger = tr.takenSince logger ∧ tr.taken <+: tr.sent ↔
      tr.takenSince logger = [] ∨ tr.earlyLoggers.count logger = 1 := by
  rw [and_iff_left (taken_prefix_sent h), received_eq h ha]
  by_cases hm : logger ∈ tr.earlyLoggers
  · rw [takenSince_of_mem_earlyLoggers h hm, flatMap_replicate_eq_self]
  · have hc : tr.earlyLoggers.count logger = 0 := List.count_eq_zero.mpr hm
    have hnil : tr.taken.flatMap (List.replicate 0) = [] := by simp
    rw [hc, hnil]
    exact ⟨fun h => .inl h.symm, fun h => (h.resolve_right (by simp)).symm⟩

/-- A server in a fresh module. -/
def firstSession : Session := .new (.loaded .empty .empty)

/-- A logger registers before filtering is enabled and a hook logs. -/
def earlyRegistration : List SessionLabel :=
  [.request (.registerLogger ⟨.ok (), .ok 7⟩), .request (.enableFiltering .allOk),
    .event .getAddrInfo (.message "seen"), .forward fun _ => true]

/-- A logger registers after another client has enabled filtering. -/
def lateRegistration : List SessionLabel :=
  [.request (.enableFiltering .allOk), .request (.registerLogger ⟨.ok (), .ok 7⟩),
    .event .getAddrInfo (.message "missed"), .forward fun _ => true]

theorem answers_trail {labels : List SessionLabel}
    (h : ∀ l ∈ labels, ∀ answers, l = .forward answers → answers logger = true) :
    Answers logger (Lts.trail (Session.step R) s labels) :=
  fun _ hx answers he => h _ (Lts.mem_trail hx) answers he

theorem received_iff_earlyRegistration :
    let tr : SessionTrail := Lts.trail (Session.step quietRegex) firstSession earlyRegistration
    tr.received 7 = tr.takenSince 7 ∧ tr.taken <+: tr.sent ↔
      tr.takenSince 7 = [] ∨ tr.earlyLoggers.count 7 = 1 :=
  received_iff quietRegex (.loaded .empty .empty) 7 (Lts.trace_of_run rfl)
    (answers_trail (by
      intro l hl answers he
      subst he
      simp [earlyRegistration] at hl
      simp [hl]))

/-- The task's clone of the manager was made without the late logger. -/
theorem lateRegistration_missed :
    let tr : SessionTrail := Lts.trail (Session.step quietRegex) firstSession lateRegistration
    (∃ s, Lts.Trace (Session.step quietRegex) firstSession tr s) ∧ Answers 7 tr ∧
      tr.takenSince 7 = [.message "missed"] ∧ tr.received 7 ≠ tr.takenSince 7 := by
  refine ⟨⟨_, Lts.trace_of_run rfl⟩, answers_trail ?_, by decide, by decide⟩
  intro l hl answers he
  subst he
  simp [lateRegistration] at hl
  simp [hl]

end BurntSushi.Blocker
