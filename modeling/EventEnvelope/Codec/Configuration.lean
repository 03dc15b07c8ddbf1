/-
  EventEnvelope.Codec.Configuration
  ─────────────────────────────────
  **Applying the codec's conventions once.**

  The feature flag doubles as the mark that the conventions have been applied.  It is looked at
  twice, before and after waiting for the codec's lock, and set last, so whoever sees it also sees
  the modules.  What other callers do in between is a parameter (`meanwhile`).
-/
import EventEnvelope.Adapter

namespace EventEnvelope

namespace Codec

/-- Names in a tuple, as a log line shows them. -/
def shownNames (names : List Text) : Text := Value.shownTuple (names.map Quoted.ofText)

/-- Register the modules and set the flag, while holding the lock. -/
def applyConventions : Adapter Unit := do
  Adapter.modifyCodec (·.register .epochMillis)
  Adapter.modifyCodec (·.register .isoDates)
  Adapter.modifyCodec (·.configure caseInsensitive true)
  let c ← Adapter.codec
  Adapter.log .debug .codec ("JSON codec configured with modules " ++ shownNames c.modules)

/-- What is left to do once the lock is held. -/
def configureLocked : Adapter Unit := do
  let c ← Adapter.codec
  if c.isConfigured then return () else applyConventions

/-- Configure the codec unless it is configured already; `meanwhile` happens between the first look
at the flag and getting the lock. -/
def ensureConfiguredAmid (meanwhile : Adapter Unit) : Adapter Unit := do
  let c ← Adapter.codec
  if c.isConfigured then return ()
  else do
    meanwhile
    configureLocked

/-- Configure the codec unless it is configured already. -/
def ensureConfigured : Adapter Unit := ensureConfiguredAmid (pure ())

end Codec

end EventEnvelope
