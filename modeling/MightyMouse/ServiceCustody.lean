import MightyMouse.ActivityLifecycle
import Mathlib.Data.List.Induction

/-!
# Whose service the dispatcher holds

The dispatcher keeps the service that the first `getSingleton` call of the
process passes to it.  An abstract machine records the service field of each
activity and that of the singleton; the process refines it, and what it holds
is read off the sequence of events.
-/

namespace MightyMouse.ActivityLifecycle

/-- The service fields of the activities and of the singleton, if there is
one, and the number of services created. -/
structure Custody where
  provided : ActivityId → Option ServiceId
  singleton : Option (Option ServiceId)
  created : Nat

namespace Custody

def initial : Custody where
  provided := fun _ => none
  singleton := none
  created := 0

/-- An activity gets a new service. -/
def provide (custody : Custody) (id : ActivityId) : Custody :=
  { custody with
    provided := Function.update custody.provided id (some custody.created)
    created := custody.created + 1 }

/-- The dispatcher is asked for with a service to use the first time. -/
def offer (custody : Custody) (service : Option ServiceId) : Custody :=
  { custody with singleton := some (custody.singleton.getD service) }

def after (custody : Custody) : Event → Custody
  | .onStart id true =>
      if custody.provided id = none then custody.provide id else custody
  | .onEnableResult id true => custody.provide id
  | .onResume id _ => custody.offer (custody.provided id)
  | .tenKey _ .onResume => custody.offer none
  | _ => custody

/-- What is known after a sequence of events. -/
def of (events : List Event) : Custody :=
  events.foldl after initial

end Custody

/-- An `onResume` of either activity. -/
def Event.resumes : Event → Bool
  | .onResume _ _ | .tenKey _ .onResume => true
  | _ => false

/-- An event after which the activity has a service. -/
def Event.setsUp (id : ActivityId) : Event → Bool
  | .onStart other isEnabled => other == id && isEnabled
  | .onEnableResult other resultOk => other == id && resultOk
  | _ => false

/-- The first activity of the process to be resumed was this one, with its
chat set up before, and `setupChat` has not run again for it since. -/
def Captured (events : List Event) (id : ActivityId) : Prop :=
  ∃ early listens late, events = early ++ .onResume id listens :: late ∧
    (∀ event ∈ early, event.resumes = false) ∧
    (∃ event ∈ early, event.setsUp id = true) ∧
    .onEnableResult id true ∉ late

theorem captured_snoc_iff (events : List Event) (event : Event)
    (id : ActivityId) :
    Captured (events ++ [event]) id ↔
      Captured events id ∧ event ≠ .onEnableResult id true ∨
        (∃ listens, event = .onResume id listens) ∧
          (∀ earlier ∈ events, earlier.resumes = false) ∧
          ∃ earlier ∈ events, earlier.setsUp id = true := by
  constructor
  · rintro ⟨early, listens, late, split, first, setUp, notAgain⟩
    rcases late.eq_nil_or_concat with rfl | ⟨late, last, rfl⟩
    · obtain ⟨rfl, same⟩ := List.append_inj' split rfl
      cases same
      exact .inr ⟨⟨listens, rfl⟩, first, setUp⟩
    · rw [List.concat_eq_append, ← List.cons_append, ← List.append_assoc]
        at split
      obtain ⟨rfl, same⟩ := List.append_inj' split rfl
      cases same
      simp only [List.concat_eq_append, List.mem_append, List.mem_singleton,
        not_or] at notAgain
      exact .inl ⟨⟨early, listens, late, rfl, first, setUp, notAgain.1⟩,
        Ne.symm notAgain.2⟩
  · rintro (⟨⟨early, listens, late, rfl, first, setUp, notAgain⟩, other⟩ |
      ⟨⟨listens, rfl⟩, first, setUp⟩)
    · refine ⟨early, listens, late ++ [event], by simp, first, setUp, ?_⟩
      simp [notAgain, Ne.symm other]
    · exact ⟨events, listens, [], rfl, first, setUp, by simp⟩

/-- What the events so far tell about the service fields. -/
structure Custody.Known (events : List Event) (custody : Custody) :
    Prop where
  setUp : ∀ id, (custody.provided id).isSome = true ↔
    ∃ event ∈ events, event.setsUp id = true
  first : custody.singleton = none ↔ ∀ event ∈ events, event.resumes = false
  held : ∀ id service, custody.provided id = some service →
    (custody.singleton = some (some service) ↔ Captured events id)
  fresh : ∀ id service, custody.provided id = some service →
    service < custody.created
  heldFresh : ∀ service, custody.singleton = some (some service) →
    service < custody.created
  distinct : ∀ id other service, custody.provided id = some service →
    custody.provided other = some service → id = other

namespace Custody

variable {events : List Event} {custody : Custody} {event : Event}

theorem known_initial : Known [] initial where
  setUp := by simp [initial]
  first := by simp [initial]
  held := by simp [initial]
  fresh := by simp [initial]
  heldFresh := by simp [initial]
  distinct := by simp [initial]

theorem setUp_snoc_iff (id : ActivityId) :
    (∃ earlier ∈ events ++ [event], earlier.setsUp id = true) ↔
      (∃ earlier ∈ events, earlier.setsUp id = true) ∨
        event.setsUp id = true := by
  simp [or_and_right, exists_or]

theorem first_snoc_iff :
    (∀ earlier ∈ events ++ [event], earlier.resumes = false) ↔
      (∀ earlier ∈ events, earlier.resumes = false) ∧
        event.resumes = false := by
  rw [List.forall_mem_append, List.forall_mem_singleton]

theorem Known.setUp_of_captured (known : Known events custody)
    {id : ActivityId} (captured : Captured events id) :
    (custody.provided id).isSome = true := by
  obtain ⟨early, listens, late, rfl, _, ⟨event, member, sets⟩, _⟩ := captured
  rw [known.setUp]
  exact ⟨event, by simp [member], sets⟩

theorem not_captured_of_first {id : ActivityId}
    (first : ∀ event ∈ events, event.resumes = false) :
    ¬ Captured events id := by
  rintro ⟨early, listens, late, rfl, _⟩
  have resumed := first (.onResume id listens) (by simp)
  cases resumed

/-- An event that is not an `onResume` captures nothing. -/
theorem captured_snoc_of_not_resumes (noResume : event.resumes = false)
    (id : ActivityId) :
    Captured (events ++ [event]) id ↔
      Captured events id ∧ event ≠ .onEnableResult id true := by
  rw [captured_snoc_iff, or_iff_left]
  rintro ⟨⟨listens, rfl⟩, _⟩
  cases noResume

theorem Known.quiet (known : Known events custody)
    (noResume : event.resumes = false)
    (noSetUp : ∀ id, event.setsUp id = true →
      (custody.provided id).isSome = true)
    (noResult : ∀ id, event ≠ .onEnableResult id true) :
    Known (events ++ [event]) custody where
  setUp := by
    intro id
    rw [setUp_snoc_iff, ← known.setUp]
    exact (or_iff_left_of_imp (noSetUp id)).symm
  first := by
    rw [first_snoc_iff, and_iff_left noResume]
    exact known.first
  held := by
    intro id service provided
    rw [captured_snoc_of_not_resumes noResume, and_iff_left (noResult id)]
    exact known.held id service provided
  fresh := known.fresh
  heldFresh := known.heldFresh
  distinct := known.distinct

theorem provided_provide {id other : ActivityId} {service : ServiceId}
    (provided : (custody.provide id).provided other = some service) :
    other = id ∧ service = custody.created ∨
      other ≠ id ∧ custody.provided other = some service := by
  by_cases isNew : other = id
  · subst isNew
    have number : custody.created = service := by
      simpa [Custody.provide] using provided
    exact .inl ⟨rfl, number.symm⟩
  · exact .inr ⟨isNew, by simpa [Custody.provide, isNew] using provided⟩

/-- A new service is not the one that the dispatcher holds. -/
theorem Known.provide (known : Known events custody) {id : ActivityId}
    (noResume : event.resumes = false)
    (setsUp : ∀ other, event.setsUp other = true ↔ other = id)
    (noResult : ∀ other, other ≠ id → event ≠ .onEnableResult other true)
    (renews : event = .onEnableResult id true ∨ custody.provided id = none) :
    Known (events ++ [event]) (custody.provide id) where
  setUp := by
    intro other
    rw [setUp_snoc_iff, ← known.setUp, setsUp]
    by_cases same : other = id
    · subst same
      simp [Custody.provide]
    · simp [Custody.provide, same]
  first := by
    rw [first_snoc_iff, and_iff_left noResume]
    exact known.first
  held := by
    intro other service provided
    have same : (custody.provide id).singleton = custody.singleton := rfl
    rw [captured_snoc_of_not_resumes noResume, same]
    rcases provided_provide provided with ⟨rfl, rfl⟩ | ⟨isOld, provided⟩
    · constructor
      · intro held
        exact absurd (known.heldFresh _ held) (Nat.lt_irrefl _)
      · rintro ⟨captured, notResult⟩
        have set := known.setUp_of_captured captured
        rcases renews with result | missing
        · exact absurd result notResult
        · rw [missing] at set
          cases set
    · rw [and_iff_left (noResult other isOld)]
      exact known.held other service provided
  fresh := by
    intro other service provided
    rcases provided_provide provided with ⟨_, rfl⟩ | ⟨_, provided⟩
    · exact Nat.lt_succ_self _
    · exact Nat.lt_succ_of_lt (known.fresh other service provided)
  heldFresh := by
    intro service held
    exact Nat.lt_succ_of_lt (known.heldFresh service held)
  distinct := by
    intro one two service first second
    rcases provided_provide first with ⟨oneNew, isNew⟩ | ⟨_, first⟩
    · rcases provided_provide second with ⟨twoNew, _⟩ | ⟨_, second⟩
      · rw [oneNew, twoNew]
      · have old := known.fresh two service second
        rw [isNew] at old
        exact absurd old (Nat.lt_irrefl _)
    · rcases provided_provide second with ⟨_, isNew⟩ | ⟨_, second⟩
      · have old := known.fresh one service first
        rw [isNew] at old
        exact absurd old (Nat.lt_irrefl _)
      · exact known.distinct one two service first second

/-- Only the first `onResume` decides what the dispatcher holds. -/
theorem Known.offer (known : Known events custody)
    {offered : Option ServiceId} (resumes : event.resumes = true)
    (noSetUp : ∀ id, event.setsUp id = false)
    (noResult : ∀ id, event ≠ .onEnableResult id true)
    (offers : ∀ id service, custody.provided id = some service →
      (offered = some service ↔ ∃ listens, event = .onResume id listens))
    (offeredFresh : ∀ service, offered = some service →
      service < custody.created) :
    Known (events ++ [event]) (custody.offer offered) where
  setUp := by
    intro id
    rw [setUp_snoc_iff, noSetUp id, or_iff_left Bool.false_ne_true]
    exact known.setUp id
  first := by
    rw [first_snoc_iff, resumes]
    simp [Custody.offer]
  held := by
    intro id service provided
    have setUp : ∃ event ∈ events, event.setsUp id = true := by
      rw [← known.setUp]
      exact Option.isSome_iff_exists.mpr ⟨service, provided⟩
    rw [captured_snoc_iff, and_iff_left (noResult id), and_iff_left setUp,
      Custody.offer]
    cases held : custody.singleton with
    | none =>
        have first := known.first.mp held
        rw [or_iff_right (not_captured_of_first first), and_iff_left first,
          ← offers id service provided]
        simp
    | some current =>
        have notFirst : ¬ ∀ event ∈ events, event.resumes = false := by
          rw [← known.first, held]
          simp
        rw [or_iff_left (fun both => notFirst both.2),
          ← known.held id service provided, held]
        simp
  fresh := known.fresh
  heldFresh := by
    intro service held
    cases before : custody.singleton with
    | none =>
        rw [Custody.offer, before] at held
        exact offeredFresh service (by simpa using held)
    | some current =>
        rw [Custody.offer, before] at held
        exact known.heldFresh service (by simpa [before] using held)
  distinct := known.distinct

theorem Known.resumed (known : Known events custody) (id : ActivityId)
    (listens : WorkerClass.Listens) :
    Known (events ++ [.onResume id listens])
      (custody.offer (custody.provided id)) := by
  apply known.offer rfl (fun _ => rfl) (fun _ => by simp)
  · intro other service provided
    constructor
    · intro offered
      have same := known.distinct id other service offered provided
      exact ⟨listens, by rw [same]⟩
    · rintro ⟨_, same⟩
      cases same
      exact provided
  · exact known.fresh id

theorem Known.after (known : Known events custody) (event : Event) :
    Known (events ++ [event]) (custody.after event) := by
  cases event with
  | onStart id isEnabled =>
      cases isEnabled with
      | false =>
          exact known.quiet rfl (by simp [Event.setsUp]) (by simp)
      | true =>
          rw [Custody.after]
          split
          · next missing =>
              apply known.provide rfl _ (by simp) (.inr missing)
              intro other
              rw [Event.setsUp, Bool.and_true, beq_iff_eq, eq_comm]
          · next present =>
              apply known.quiet rfl _ (by simp)
              intro other sets
              have same : id = other := by simpa [Event.setsUp] using sets
              rw [← same]
              exact Option.isSome_iff_ne_none.mpr present
  | onEnableResult id resultOk =>
      cases resultOk with
      | false =>
          exact known.quiet rfl (by simp [Event.setsUp]) (by simp)
      | true =>
          apply known.provide rfl _ _ (.inl rfl)
          · intro other
            rw [Event.setsUp, Bool.and_true, beq_iff_eq, eq_comm]
          · intro other different same
            cases same
            exact different rfl
  | onResume id listens => exact known.resumed id listens
  | tenKey id callback =>
      cases callback with
      | onResume =>
          exact known.offer rfl (fun _ => rfl) (by simp) (by simp) (by simp)
      | _ => exact known.quiet rfl (by simp [Event.setsUp]) (by simp)
  | _ => exact known.quiet rfl (by simp [Event.setsUp]) (by simp)

theorem known_of (events : List Event) : Known events (of events) := by
  induction events using List.reverseRecOn with
  | nil => exact known_initial
  | append_singleton events event ih =>
      rw [of, List.foldl_append]
      exact ih.after event

end Custody

/-- The service fields of a process. -/
def Process.custody (process : Process) : Custody where
  provided := process.chatService
  singleton := process.mSingleton.map Singleton.mChatService
  created := process.services.length

theorem custody_getSingleton (context : Context)
    (service : Option ServiceId) (process : Process) :
    (getSingleton context service process).custody =
      process.custody.offer service := by
  cases held : process.mSingleton with
  | none =>
      simp only [getSingleton, Process.custody, Custody.offer, held]
      rfl
  | some singleton =>
      simp only [getSingleton, Process.custody, Custody.offer, held]
      rfl

theorem chatService_put {process : Process} {id : ActivityId}
    (present : id < process.activities.length)
    (activity : MouseAndKeyboard) :
    (process.put id activity).chatService =
      Function.update process.chatService id activity.mChatService := by
  funext other
  by_cases same : other = id
  · subst same
    simp [Process.chatService, Process.put, present]
  · simp [Process.chatService, Process.put, same, Ne.symm same]

/-- A callback that leaves the service field of its activity alone. -/
theorem custody_put_keep {process : Process} {id : ActivityId}
    {activity : MouseAndKeyboard}
    (present : id < process.activities.length)
    (keeps : process.chatService id = activity.mChatService) :
    (process.put id activity).custody = process.custody := by
  have same : (process.put id activity).chatService =
      process.chatService := by
    rw [chatService_put present, ← keeps, Function.update_eq_self]
  unfold Process.custody
  rw [same]
  rfl

theorem custody_setupChat {process : Process} {id : ActivityId}
    (present : id < process.activities.length)
    (activity : MouseAndKeyboard) :
    ((setupChat activity process).2.put id
        (setupChat activity process).1).custody =
      process.custody.provide id := by
  have stillPresent : id < (setupChat activity process).2.activities.length :=
    present
  unfold Process.custody
  rw [chatService_put stillPresent]
  simp [setupChat, Custody.provide, Process.put]
  rfl

theorem custody_callService (body : WorkerClass.Body Unit)
    (service : Option ServiceId) (process : Process) :
    (callService body service process).custody = process.custody := by
  cases service with
  | none => rfl
  | some id =>
      simp [callService, Process.custody]
      rfl

theorem callService_activities (body : WorkerClass.Body Unit)
    (service : Option ServiceId) (process : Process) :
    (callService body service process).activities = process.activities := by
  cases service <;> rfl

/-- What a handler does to the service fields, when it is called with the
fields of the given activity. -/
def Handler.Keeps (handler : Handler) (id : ActivityId)
    (event : Event) : Prop :=
  ∀ process activity after next, id < process.activities.length →
    process.chatService id = activity.mChatService →
    handler activity process = some (after, next) →
    (next.put id after).custody = process.custody.after event

theorem custody_handle {process : Process} {id : ActivityId}
    {activity : MouseAndKeyboard} {handler : Handler} {event : Event}
    (keeps : handler.Keeps id event)
    (present : id < process.activities.length)
    (current : process.chatService id = activity.mChatService) :
    (handle process id activity handler).crashed = true ∨
      (handle process id activity handler).custody =
        process.custody.after event := by
  unfold handle
  cases result : handler activity process with
  | none => exact .inl rfl
  | some pair =>
      exact .inr (keeps process activity pair.1 pair.2 present current result)

theorem chatService_of_found {process : Process} {id : ActivityId}
    {activity : MouseAndKeyboard}
    (found : process.activities[id]? = some activity) :
    id < process.activities.length ∧
      process.chatService id = activity.mChatService := by
  refine ⟨(List.getElem?_eq_some_iff.mp found).1, ?_⟩
  rw [Process.chatService, found]
  rfl

theorem custody_lifecycle {process next : Process} {id : ActivityId}
    {callback : Callback} {handler : Handler} {event : Event}
    (keeps : handler.Keeps id event)
    (taken : lifecycle process id callback handler = some next) :
    next.crashed = true ∨ next.custody = process.custody.after event := by
  obtain ⟨activity, found, moved⟩ := Option.bind_eq_some_iff.mp taken
  obtain ⟨phase, _, handled⟩ := Option.bind_eq_some_iff.mp moved
  obtain ⟨present, current⟩ := chatService_of_found found
  cases handled
  exact custody_handle keeps present current

theorem onStart_keeps (id : ActivityId) (isEnabled : Bool) :
    (onStart isEnabled).Keeps id (.onStart id isEnabled) := by
  intro process activity after next present current returned
  unfold onStart at returned
  split at returned
  · cases returned
  · split at returned
    · next disabled =>
        have off : isEnabled = false := by simpa using disabled
        cases returned
        rw [off]
        exact custody_put_keep present current
    · next enabled =>
        have on : isEnabled = true := by simpa using enabled
        have provided : process.custody.provided id = activity.mChatService :=
          current
        rw [on, Custody.after, provided]
        split at returned
        · next missing =>
            cases returned
            rw [if_pos missing]
            exact custody_setupChat present _
        · next existing =>
            cases returned
            rw [if_neg existing]
            exact custody_put_keep present current

theorem onResume_keeps (id : ActivityId) (listens : WorkerClass.Listens) :
    (onResume id listens).Keeps id (.onResume id listens) := by
  intro process activity after next present current returned
  cases returned
  have started := callService_activities (startIfNone listens)
    activity.mChatService process
  have stillPresent : id < (callService (startIfNone listens)
      activity.mChatService process).activities.length := by
    rw [started]
    exact present
  have stillCurrent : (callService (startIfNone listens)
      activity.mChatService process).chatService id =
        activity.mChatService := by
    rw [Process.chatService, started]
    exact current
  have provided : process.custody.provided id = activity.mChatService :=
    current
  apply Eq.trans
  · apply custody_put_keep
    · exact stillPresent
    · exact stillCurrent
  · rw [custody_getSingleton, custody_callService, Custody.after, provided]

theorem stopSender_eq_some {activity silent : MouseAndKeyboard}
    (stopped : stopSender activity = some silent) :
    silent.mChatService = activity.mChatService := by
  unfold stopSender at stopped
  split at stopped
  · cases stopped
    rfl
  · cases stopped

theorem onStop_keeps (id : ActivityId) : onStop.Keeps id (.onStop id) := by
  intro process activity after next present current returned
  obtain ⟨silent, stopped, same⟩ := Option.map_eq_some_iff.mp returned
  rw [← stopSender_eq_some stopped] at current
  cases same
  exact custody_put_keep present current

theorem onDestroy_keeps (id : ActivityId) :
    onDestroy.Keeps id (.onDestroy id) := by
  intro process activity after next present current returned
  obtain ⟨silent, stopped, same⟩ := Option.map_eq_some_iff.mp returned
  rw [← stopSender_eq_some stopped] at current
  cases same
  have halted := callService_activities WorkerClass.stop
    after.mChatService process
  rw [custody_put_keep (by rw [halted]; exact present)
    (by rw [Process.chatService, halted]; exact current),
    custody_callService]
  rfl

theorem onEnableResult_keeps (id : ActivityId) (resultOk : Bool) :
    (onEnableResult resultOk).Keeps id (.onEnableResult id resultOk) := by
  intro process activity after next present current returned
  cases resultOk with
  | false =>
      cases returned
      exact custody_put_keep present current
  | true =>
      cases returned
      exact custody_setupChat present _

theorem custody_onCreate (process : Process) (adapter : Bool) :
    { process with
      activities := process.activities ++
        [newMouseAndKeyboard adapter] }.custody = process.custody := by
  unfold Process.custody
  congr 1
  funext id
  unfold Process.chatService
  rw [List.getElem?_append]
  split
  · rfl
  · next beyond =>
      rw [List.getElem?_eq_none (Nat.le_of_not_lt beyond)]
      cases id - process.activities.length <;> rfl

theorem custody_tenKeyCallback (process : Process) (id : ActivityId)
    (phases : List Phase) (callback : Callback) :
    (tenKeyCallback id { process with tenKeys := phases } callback).custody =
      process.custody.after (.tenKey id callback) := by
  cases callback with
  | onResume =>
      rw [tenKeyCallback, custody_getSingleton]
      rfl
  | _ => rfl

theorem perform_of_step {process next : Process} {event : Event}
    (taken : step process event = some next) :
    perform process event = some next := by
  unfold step at taken
  split at taken
  · cases taken
  · split at taken
    · exact taken
    · cases taken

/-- The process refines the abstract machine, unless it dies. -/
theorem custody_step {process next : Process} {event : Event}
    (taken : step process event = some next) :
    next.crashed = true ∨ next.custody = process.custody.after event := by
  have performed := perform_of_step taken
  cases event with
  | onCreate adapter =>
      cases performed
      exact .inr (custody_onCreate process adapter)
  | onStart id isEnabled =>
      exact custody_lifecycle (onStart_keeps id isEnabled) performed
  | onResume id listens =>
      exact custody_lifecycle (onResume_keeps id listens) performed
  | onPause id =>
      apply custody_lifecycle _ performed
      intro process activity after next present current returned
      cases returned
      exact custody_put_keep present current
  | onStop id => exact custody_lifecycle (onStop_keeps id) performed
  | onDestroy id => exact custody_lifecycle (onDestroy_keeps id) performed
  | onEnableResult id resultOk =>
      obtain ⟨activity, found, handled⟩ := Option.map_eq_some_iff.mp performed
      obtain ⟨present, current⟩ := chatService_of_found found
      cases handled
      exact custody_handle (onEnableResult_keeps id resultOk) present current
  | createTenKey =>
      cases performed
      exact .inr rfl
  | tenKey id callback =>
      obtain ⟨before, _, moved⟩ := Option.bind_eq_some_iff.mp performed
      obtain ⟨phase, _, same⟩ := Option.bind_eq_some_iff.mp moved
      cases same
      exact .inr (custody_tenKeyCallback process id _ callback)
  | service id label =>
      obtain ⟨worker, _, same⟩ := Option.map_eq_some_iff.mp performed
      cases same
      right
      simp only [Process.custody, Custody.after, List.length_set]
      rfl

theorem step_of_crashed {process : Process} (crashed : process.crashed = true)
    (event : Event) : step process event = none := by
  simp [step, crashed]

/-- The service fields of a process that has not died are those that its
events tell. -/
theorem custody_of_follow {process : Process} {events : List Event}
    (run : LabelledRun.follow step Process.initial events = some process) :
    process.crashed = true ∨ process.custody = Custody.of events := by
  have kept : ∀ past before event next,
      (before.crashed = true ∨ before.custody = Custody.of past) →
      step before event = some next →
      (next.crashed = true ∨
        next.custody = Custody.of (past ++ [event])) := by
    intro past before event next known taken
    rcases known with crashed | known
    · rw [step_of_crashed crashed] at taken
      cases taken
    · rw [Custody.of, List.foldl_append]
      have stepped := custody_step taken
      rw [known] at stepped
      exact stepped
  have start : Process.initial.crashed = true ∨
      Process.initial.custody = Custody.of [] := .inr rfl
  have history := LabelledRun.history_of_follow step
    (fun past process =>
      process.crashed = true ∨ process.custody = Custody.of past)
    kept start run
  exact history

/-- `onResume` dereferences nothing that may be null. -/
theorem not_crashed_of_onResume {process next : Process} {id : ActivityId}
    {listens : WorkerClass.Listens}
    (taken : step process (.onResume id listens) = some next) :
    next.crashed = false := by
  have alive : process.crashed = false := by
    cases crashed : process.crashed with
    | false => rfl
    | true =>
        rw [step_of_crashed crashed] at taken
        cases taken
  have performed := perform_of_step taken
  obtain ⟨activity, _, moved⟩ := Option.bind_eq_some_iff.mp performed
  obtain ⟨phase, _, handled⟩ := Option.bind_eq_some_iff.mp moved
  cases handled
  change (callService (startIfNone listens) activity.mChatService
    process).crashed = false
  rw [← alive]
  cases activity.mChatService <;> rfl

/-- After every `onResume` of a `MouseAndKeyboardActivity` that has a service,
the dispatcher holds this service exactly if the first activity of the process
to be resumed was that very instance, with its chat set up before, and the
chat has not been set up again since. -/
theorem dispatcher_holds_service_iff {events : List Event} {id : ActivityId}
    {listens : WorkerClass.Listens} {process : Process}
    (run : LabelledRun.follow step Process.initial
      (events ++ [.onResume id listens]) = some process)
    {service : ServiceId} (set : process.chatService id = some service) :
    process.dispatcherService = some service ↔
      Captured (events ++ [.onResume id listens]) id := by
  have custody : process.custody =
      Custody.of (events ++ [.onResume id listens]) := by
    rcases custody_of_follow run with crashed | custody
    · rw [LabelledRun.follow_append] at run
      obtain ⟨before, _, last⟩ := Option.bind_eq_some_iff.mp run
      obtain ⟨next, taken, same⟩ :=
        (LabelledRun.follow_cons_eq_some step).mp last
      cases same
      rw [not_crashed_of_onResume taken] at crashed
      cases crashed
    · exact custody
  have known := Custody.known_of (events ++ [.onResume id listens])
  rw [← custody] at known
  rw [← known.held id service set]
  simp [Process.custody, Process.dispatcherService, Option.bind_eq_some_iff]

/-- The app is launched with Bluetooth on; then the ten-key pad comes to the
front for a while. -/
def visitTenKey : List Event :=
  [.onCreate true, .onStart 0 true, .onResume 0 ⟨true, true⟩, .onPause 0,
    .createTenKey, .tenKey 0 .onStart, .tenKey 0 .onResume, .onStop 0,
    .tenKey 0 .onPause, .onStart 0 true]

/-- The app is launched with Bluetooth off, which the user then enables. -/
def enableBluetooth : List Event :=
  [.onCreate true, .onStart 0 false, .onResume 0 ⟨true, true⟩, .onPause 0,
    .onEnableResult 0 true]

/-- The activity is destroyed and created again. -/
def recreate : List Event :=
  [.onCreate true, .onStart 0 true, .onResume 0 ⟨true, true⟩, .onPause 0,
    .onStop 0, .onDestroy 0, .onCreate true, .onStart 1 true]

/-- After the visit the dispatcher still holds the service of the activity. -/
theorem dispatcher_holds_service_after_visit :
    ∃ process, LabelledRun.follow step Process.initial
        (visitTenKey ++ [.onResume 0 ⟨true, true⟩]) = some process ∧
      process.chatService 0 = some 0 ∧
      process.dispatcherService = some 0 := by
  have computed : (LabelledRun.follow step Process.initial
      (visitTenKey ++ [.onResume 0 ⟨true, true⟩])).map
        (fun process => process.chatService 0) = some (some 0) := by
    decide
  obtain ⟨process, run, set⟩ := Option.map_eq_some_iff.mp computed
  refine ⟨process, run, set, (dispatcher_holds_service_iff run set).mpr ?_⟩
  refine ⟨[.onCreate true, .onStart 0 true], ⟨true, true⟩, _, rfl, ?_, ?_, ?_⟩
  · decide
  · decide
  · decide

/-- After the other two runs the dispatcher holds no service, or the service
of the activity that was destroyed. -/
theorem dispatcher_misses_service :
    (LabelledRun.follow step Process.initial
        (enableBluetooth ++ [.onResume 0 ⟨true, true⟩])).map
          (fun process => (process.chatService 0, process.dispatcherService)) =
        some (some 0, none) ∧
      (LabelledRun.follow step Process.initial
        (recreate ++ [.onResume 1 ⟨true, true⟩])).map
          (fun process => (process.chatService 1, process.dispatcherService)) =
        some (some 1, some 0) := by
  decide

end MightyMouse.ActivityLifecycle
