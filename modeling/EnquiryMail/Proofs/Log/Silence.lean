/-
When a journal writes nothing. Without overrides one level holds for every component, the global one; a call below it
leaves the journal as it is, so a journal that only hears such calls writes no line, whatever its format is.

- `effective_plain`: without overrides every component has the global level.
- `log_below`: a call below the global level changes nothing.
- `lines_below`: so calls below it are no lines.
- `plain_boot`: a mailer starts without overrides unless its environment names some.
-/
import EnquiryMail.Log.Journal

namespace EnquiryMail.Log

namespace Registry

/-- no component has a level of its own -/
def Plain (r : Registry) : Prop := ∀ p ∈ r, p.2.level = none

variable {r : Registry}

theorem plain_empty : Plain .empty := List.forall_mem_nil _

theorem Plain.override? (h : Plain r) (name : String) : r.override? name = none := by
  unfold Registry.override? find?
  induction r with
  | nil => rfl
  | cons p r ih =>
    have hlevel := h p List.mem_cons_self
    have hrest : Plain r := fun q hq => h q (List.mem_cons_of_mem p hq)
    rw [List.lookup_cons]
    split
    · exact hlevel
    · exact ih hrest

theorem Plain.put (h : Plain r) (name : String) {c : Component} (hc : c.level = none) : Plain (r.put name c) := by
  induction r with
  | nil => simpa [Plain, Registry.put] using hc
  | cons p r ih =>
    have hrest : Plain r := fun q hq => h q (List.mem_cons_of_mem p hq)
    unfold Registry.put
    split
    · exact List.forall_mem_cons.2 ⟨hc, hrest⟩
    · exact List.forall_mem_cons.2 ⟨h p List.mem_cons_self, ih hrest⟩

theorem Plain.register (h : Plain r) (name description : String) : Plain (r.register name description none) := by
  apply h.put
  rw [h.override?, Option.or_none]

/-- without overrides a component has the level that holds for all -/
theorem effective_plain (h : Plain r) (name : String) (fallback : Level) : r.effective name fallback = fallback := by
  have hnone : (lineage name).findSome? r.override? = none := by
    rw [List.findSome?_eq_none_iff]
    intro other _
    exact h.override? other
  rw [effective, hnone, Option.getD_none]

end Registry

namespace Journal

/-- the outputs are open, and no component has a level of its own -/
structure Plain (j : Journal) : Prop where
  isOpen : j.outputs.isSome = true
  registry : j.registry.Plain

variable {j : Journal}

theorem Plain.isEnabled (h : j.Plain) (component : String) (level : Level) :
    j.isEnabled component level = level.enabled j.global := by
  rw [Journal.isEnabled, Registry.shouldLog, Registry.effective_plain h.registry, threshold, if_pos h.isOpen]

/-- **A call below the global level changes nothing.** -/
theorem log_below (h : j.Plain) (offset : Int) {t : Timed} (ht : t.call.level.enabled j.global = false) :
    j.log offset t = j := by
  rw [Journal.log, h.isEnabled, ht]
  rfl

theorem foldl_log_below (h : j.Plain) (offset : Int) {calls : List Timed}
    (hcalls : ∀ t ∈ calls, t.call.level.enabled j.global = false) :
    calls.foldl (fun j t => j.log offset t) j = j := by
  induction calls with
  | nil => rfl
  | cons t calls ih =>
    rw [List.foldl_cons, log_below h offset (hcalls t List.mem_cons_self)]
    apply ih
    intro t' ht'
    exact hcalls t' (List.mem_cons_of_mem t ht')

/-- **Calls below the global level are no lines.** -/
theorem lines_below (h : j.Plain) (hnone : j.console = []) (offset : Int) {calls : List Timed}
    (hcalls : ∀ t ∈ calls, t.call.level.enabled j.global = false) : j.lines offset calls = [] := by
  rw [lines, foldl_log_below h offset hcalls, hnone]
  rfl

/-- **A mailer starts without overrides** if its environment names none. -/
theorem plain_boot {env : Environment} (henv : env.get? "MAILER_DEBUG_COMPONENTS" = none) : (boot env).Plain := by
  have hoverrides : splitList ((env.get? "MAILER_DEBUG_COMPONENTS").getD "") = [] := by
    rw [henv]
    decide
  refine ⟨rfl, ?_⟩
  have hregistry := (((Registry.plain_empty.register "smtp" "SMTP STARTTLS sender").register
    "enquiry" "Enquiry form handling").register "api" "HTTP API server").register "server" "Server lifecycle"
  simpa [boot, initialise, settings, start, Settings.ofEnvironment, hoverrides, Registry.apply] using hregistry

end Journal

end EnquiryMail.Log
