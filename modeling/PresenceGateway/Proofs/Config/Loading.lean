import PresenceGateway.Config.Settings
import PresenceGateway.Proofs.Sequencing
/-!
What a configuration that was loaded has been read from: each of its parts from the variables of that
part, and a setting of its own from the text of its variable or, when that is not set, from nothing.
-/
namespace PresenceGateway.Config

variable {environment : Environment}

theorem meaning_eq_ok_iff {α : Type} {name : String} {parse? : String → Option α}
    {found : Option α} :
    meaning environment name parse? = .ok found ↔
      (environment.setting? name = none ∧ found = none) ∨
        ∃ value a, environment.setting? name = some value ∧ parse? value = some a ∧
          found = some a := by
  unfold meaning
  cases environment.setting? name with
  | none => simp [eq_comm]
  | some value =>
      cases parsed : parse? value with
      | none => simp [parsed]
      | some a => simp [parsed, eq_comm]

theorem load_eq_ok_iff {config : Config} :
    load environment = .ok config ↔
      readMode environment = .ok config.mode ∧ readAddress environment = .ok config.address ∧
        readWebhook environment = .ok config.webhook ∧
        readLimits environment = .ok config.limits ∧ readNas environment = .ok config.nas ∧
        config.databaseUrl =
          (environment.setting? "DATABASE_URL").getD "sqlite://data/presence.db?mode=rwc" := by
  unfold load
  simp only [bind_eq_ok_iff]
  constructor
  · rintro ⟨mode, modeRead, address, addressRead, webhook, webhookRead, limits, limitsRead, nas,
      nasRead, same⟩
    cases same
    exact ⟨modeRead, addressRead, webhookRead, limitsRead, nasRead, rfl⟩
  · rintro ⟨modeRead, addressRead, webhookRead, limitsRead, nasRead, database⟩
    refine ⟨_, modeRead, _, addressRead, _, webhookRead, _, limitsRead, _, nasRead, ?_⟩
    rw [← database]
    rfl

theorem readLimits_eq_ok_iff {limits : Dispatch.Limits} :
    readLimits environment = .ok limits ↔ ∃ capacity inFlight,
      meaning environment "PRESENCE_QUEUE_CAPACITY" readPositive? = .ok capacity ∧
      meaning environment "PRESENCE_MAX_IN_FLIGHT" readPositive? = .ok inFlight ∧
      limits.capacity = capacity.getD Dispatch.Limits.default.capacity ∧
      limits.inFlight = inFlight.getD Dispatch.Limits.default.inFlight := by
  unfold readLimits
  simp only [bind_eq_ok_iff]
  constructor
  · rintro ⟨capacity, capacityRead, inFlight, inFlightRead, same⟩
    cases same
    exact ⟨capacity, inFlight, capacityRead, inFlightRead, rfl, rfl⟩
  · rintro ⟨capacity, inFlight, capacityRead, inFlightRead, sameCapacity, sameInFlight⟩
    refine ⟨capacity, capacityRead, inFlight, inFlightRead, ?_⟩
    rw [← sameCapacity, ← sameInFlight]
    rfl

theorem readPositive?_pos {text : String} {value : Nat} (read : readPositive? text = some value) :
    0 < value := by
  obtain ⟨_, nonzero⟩ := Option.filter_eq_some_iff.mp read
  exact Nat.pos_of_ne_zero (of_decide_eq_true nonzero)

/-- A number of a configuration that must be positive is so, whether it is set or not. -/
theorem meaning_readPositive?_pos {name : String} {found : Option Nat} {default : Nat}
    (positive : 0 < default) (read : meaning environment name readPositive? = .ok found) :
    0 < found.getD default := by
  rcases meaning_eq_ok_iff.mp read with ⟨_, rfl⟩ | ⟨_, value, _, parsed, rfl⟩
  · exact positive
  · exact readPositive?_pos parsed

theorem limits_pos {config : Config} (loaded : load environment = .ok config) :
    0 < config.limits.capacity ∧ 0 < config.limits.inFlight := by
  obtain ⟨_, _, _, limitsRead, _⟩ := load_eq_ok_iff.mp loaded
  obtain ⟨capacity, inFlight, capacityRead, inFlightRead, sameCapacity, sameInFlight⟩ :=
    readLimits_eq_ok_iff.mp limitsRead
  rw [sameCapacity, sameInFlight]
  exact ⟨meaning_readPositive?_pos (by decide) capacityRead,
    meaning_readPositive?_pos (by decide) inFlightRead⟩

end PresenceGateway.Config
