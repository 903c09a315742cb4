/-
Launching a mailer: its configuration is read from the environment, the server starts, and signals are handled from
then on. An environment that cannot be used ends the process, and so does a start that fails or an error that nobody
handles.
-/
import EnquiryMail.Server.Life

namespace EnquiryMail.Server

open Enquiry (Courier)

variable {σ : Type}

/-- the mailer begins to start, unless its environment cannot be used -/
def launch (courier : Courier σ) (surroundings : σ) : Option Setup × State σ :=
  let st := State.initial surroundings
  match Config.read (courier.world surroundings).env with
  | .error e => (none, (st.log courier (Log.call component .error e.message [])).exit courier 1)
  | .ok config =>
    let s : Setup := ⟨config, 0⟩
    (some s, st.step courier s .start)

/-- what follows once the first start has come out -/
def launched (courier : Courier σ) (s : Setup) (st : State σ) : State σ :=
  match st.result? 0 with
  | some (.ok _) => st.step courier s .install
  | some (.error message) =>
    (st.log courier (Log.failure component "Failed to start mailer" message [])).exit courier 1
  | none => st

/-- an error that nobody handles -/
def unhandled (courier : Courier σ) (message : String) (st : State σ) : State σ :=
  (st.log courier (Log.failure component "Unhandled promise rejection" message [])).exit courier 1

end EnquiryMail.Server
