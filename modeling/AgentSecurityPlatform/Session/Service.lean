import AgentSecurityPlatform.Session.Repository

namespace AgentSecurityPlatform

structure DetectionRetentionPolicy where
  retentionWindowSeconds : Instant
  lateArrivalGraceSeconds : Instant := 30 * 1000000
  window_pos : 0 < retentionWindowSeconds
  grace_nonneg : 0 ≤ lateArrivalGraceSeconds

namespace DetectionRetentionPolicy

def totalRetentionSeconds (p : DetectionRetentionPolicy) : Instant :=
  p.retentionWindowSeconds + p.lateArrivalGraceSeconds

def fromDetectionWindow (window grace : Instant) (hw : 0 < window) (hg : 0 ≤ grace) :
    DetectionRetentionPolicy := ⟨window, grace, hw, hg⟩

end DetectionRetentionPolicy

namespace SessionService

def bindOrValidate (r : SessionRepository) (sessionId agentId : String) (now : Instant) :
    SessionRepository × Except SessionError Session :=
  r.bindOrCreateSession sessionId agentId now

def pruneEvents (retention : Option DetectionRetentionPolicy) (r : SessionRepository)
    (now : Instant) : SessionRepository :=
  match retention with
  | none => r
  | some p => (r.pruneEvents (now - p.totalRetentionSeconds)).1

def recordEvent (retention : Option DetectionRetentionPolicy) (r : SessionRepository)
    (e : SessionEvent) : SessionRepository × Except SessionError SessionEvent :=
  match r.recordEvent e with
  | (r', .error err) => (r', .error err)
  | (r', .ok recorded) => (pruneEvents retention r' recorded.timestamp, .ok recorded)

end SessionService

end AgentSecurityPlatform
