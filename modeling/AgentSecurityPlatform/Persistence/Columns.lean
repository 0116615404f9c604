import AgentSecurityPlatform.Authorization.Policy

namespace AgentSecurityPlatform

def parseValue {α : Type} (members : List α) (value : α → String) (s : String) : Option α :=
  members.find? (fun a => value a = s)

-- a timestamp column of the database: what it gives back for what was written
structure TimestampColumn where
  timestamp : Timestamp → Timestamp
  moment : ∀ t : Timestamp, t.isUtc = true → (timestamp t).instant = t.instant

def ensureUtc (t : Timestamp) : Timestamp :=
  match t.utcOffset with
  | none => { t with utcOffset := some 0 }
  | some _ => t

namespace TimestampColumn

def readBack (column : TimestampColumn) (t : Timestamp) : Timestamp :=
  ensureUtc (column.timestamp t)

-- the moment survives the column, and there was an offset to begin with
structure Keeps (column : TimestampColumn) (t : Timestamp) : Prop where
  aware : t.isAware = true
  moment : (column.timestamp t).instant = t.instant

variable {column : TimestampColumn} {t : Timestamp}

theorem readBack_instant (column : TimestampColumn) (t : Timestamp) :
    (column.readBack t).instant = (column.timestamp t).instant := by
  unfold readBack ensureUtc
  split <;> rfl

theorem readBack_isAware (column : TimestampColumn) (t : Timestamp) :
    (column.readBack t).isAware = true := by
  unfold readBack ensureUtc
  split
  · rfl
  · rename_i offset h
    simp [Timestamp.isAware, h]

theorem compared_readBack_iff : (column.readBack t).compared = t.compared ↔ column.Keeps t := by
  have hback (u : Timestamp) (hu : u.isAware = true) : u.compared = ⟨u.instant, some 0⟩ := by
    obtain ⟨offset, hoffset⟩ := Option.isSome_iff_exists.mp hu
    simp [Timestamp.compared, hoffset]
  rw [hback _ (readBack_isAware column t), readBack_instant]
  constructor
  · intro h
    have hoffset : t.utcOffset.map (fun _ => (0 : Int)) = some 0 :=
      (congrArg Timestamp.utcOffset h).symm
    obtain ⟨offset, ht, -⟩ := Option.map_eq_some_iff.mp hoffset
    have hinstant : (column.timestamp t).instant = t.compared.instant := congrArg (·.instant) h
    exact ⟨by simp [Timestamp.isAware, ht], hinstant⟩
  · intro h
    rw [hback t h.aware, h.moment]

theorem keeps_of_isUtc (column : TimestampColumn) (h : t.isUtc = true) : column.Keeps t :=
  ⟨Timestamp.isAware_of_isUtc h, column.moment t h⟩

-- what every timestamp comes back as from a database that stores wall-clock readings
def wallClock : TimestampColumn where
  timestamp t := { instant := t.instant + t.utcOffset.getD 0, utcOffset := none }
  moment t h := by
    rw [Timestamp.isUtc, decide_eq_true_eq] at h
    simp [h]

end TimestampColumn

def EnforcementAction.value : EnforcementAction → String
  | .suspend => "SUSPEND"
  | .reinstate => "REINSTATE"

def EnforcementAction.ofValue : String → Option EnforcementAction :=
  parseValue [.suspend, .reinstate] value

def AgentStatus.value : AgentStatus → String
  | .registered => "REGISTERED"
  | .active => "ACTIVE"
  | .suspended => "SUSPENDED"
  | .disabled => "DISABLED"

def AgentStatus.ofValue : String → Option AgentStatus :=
  parseValue [.registered, .active, .suspended, .disabled] value

def RiskLevel.ofValue : String → Option RiskLevel :=
  parseValue [.low, .medium, .high, .critical] value

theorem EnforcementAction.ofValue_value (a : EnforcementAction) : ofValue a.value = some a := by
  cases a <;> rfl

theorem EnforcementAction.value_inj {a b : EnforcementAction} : a.value = b.value ↔ a = b := by
  constructor
  · intro h
    exact Option.some.inj (by rw [← ofValue_value a, h, ofValue_value])
  · exact congrArg value

theorem AgentStatus.ofValue_value (s : AgentStatus) : ofValue s.value = some s := by
  cases s <;> rfl

theorem RiskLevel.ofValue_value (l : RiskLevel) : ofValue l.value = some l := by
  cases l <;> rfl

theorem RiskLevel.value_ne (l : RiskLevel) : l.value ≠ "" := by
  cases l <;> decide

def AdministrativeLifecycleState.value : AdministrativeLifecycleState → String
  | .registered => "REGISTERED"
  | .active => "ACTIVE"
  | .disabled => "DISABLED"

def AdministrativeLifecycleState.ofValue : String → Option AdministrativeLifecycleState :=
  parseValue [.registered, .active, .disabled] value

def AdministrativeAction.value : AdministrativeAction → String
  | .register => "REGISTER"
  | .activate => "ACTIVATE"
  | .disable => "DISABLE"

def AdministrativeAction.ofValue : String → Option AdministrativeAction :=
  parseValue [.register, .activate, .disable] value

def ActorType.value : ActorType → String
  | .human => "human"
  | .system => "system"
  | .runtime => "runtime"

def ActorType.ofValue : String → Option ActorType := parseValue [.human, .system, .runtime] value

theorem AdministrativeLifecycleState.ofValue_value (s : AdministrativeLifecycleState) :
    ofValue s.value = some s := by
  cases s <;> rfl

theorem AdministrativeAction.ofValue_value (a : AdministrativeAction) :
    ofValue a.value = some a := by
  cases a <;> rfl

theorem ActorType.ofValue_value (t : ActorType) : ofValue t.value = some t := by
  cases t <;> rfl

end AgentSecurityPlatform
