import Rollout.Program
import Rollout.Proofs.Outcome.Summary
import Rollout.Proofs.PlanFile.Elements

/-!
# What becomes of the elements of a plan file

The program reports success when its run has come to the goal it was given.  That goal names what
the run is to come to as a whole.  What becomes of an element is up to its own section: those that
are to go are destroyed, and all others are deployed, whatever the goal of the run.
-/

namespace Rollout

open CommandLine (Arguments)
open Shell (Directory)

variable {ω : Type} {f : PlanFile} {a : Arguments} {goal : Goal} {p : Plan} {t : Tracker}
  {calls : Engine.Callbacks ω} {world : ω} {course : Course ω} {r : Engine.Report ω} {c : Summary}
  {judge : Pattern.Judge}

/-- Every element of the plan file stands where its section wants it. -/
def PlanFile.Fulfilled (f : PlanFile) (p : Plan) (t : Tracker) : Prop :=
  ∀ id s, (id, s) ∈ f.elements → ∃ n, p.nodeOf? id = some n ∧ t.status n = s.fate.goal.status

/-! ## Plans of plan files -/

/-- The plan of a file is the plan of the deployment that the file describes. -/
theorem PlanFile.plan_eq_ok (h : f.plan goal judge = .ok p) :
    ∃ d, f.deployment judge = .ok d ∧ Deployment.plan { d with goal } = .ok p := by
  unfold PlanFile.plan at h
  obtain ⟨d, hd, h⟩ := bind_eq_ok.1 h
  obtain ⟨p', hplan, h⟩ := bind_eq_ok.1 h
  obtain ⟨-, -, h⟩ := bind_eq_ok.1 h
  exact ⟨d, hd, Except.ok.inj h ▸ hplan⟩

/-- The plan of a file numbers its nodes by their places. -/
theorem PlanFile.placed_of_plan (h : f.plan goal judge = .ok p) : p.Placed := by
  obtain ⟨_, -, hplan⟩ := PlanFile.plan_eq_ok h
  exact (Plan.made_of_plan hplan).placed

/-- A result that is a goal, whichever it is, has every element where its section wants it. -/
theorem PlanFile.fulfilled_of_faithful (hplan : f.plan goal judge = .ok p)
    (h : Engine.Faithful p t c) {g : Goal} (hc : c.outcome = g.reported) : f.Fulfilled p t := by
  intro id s hs
  obtain ⟨d, hd, hplan⟩ := PlanFile.plan_eq_ok hplan
  obtain ⟨n, node, hn, hnode, hgoal⟩ := PlanFile.gives_of_deployment hd hplan hs
  obtain ⟨-, hreached⟩ := h.reached (by rw [hc]; exact Goal.reported_ne_failed g)
  exact ⟨n, hn, by rw [hreached n node hnode, hgoal]⟩

/-! ## Courses -/

/-- A run is reported as a success only if it has completed and its outcome is the goal. -/
theorem Course.completed_of_verdict (h : (Course.followed goal r).verdict.result = .ok ()) :
    ∃ c, r.outcome = .completed c ∧ c.outcome = goal.reported := by
  unfold Course.verdict at h
  cases houtcome : r.outcome with
  | completed c =>
    simp only [houtcome] at h
    by_cases hreached : c.outcome = goal.status.reported
    · exact ⟨c, rfl, hreached⟩
    · rw [if_neg (by simpa using hreached)] at h
      cases h
  | aborted _ => simp [houtcome] at h
  | unfinished => simp [houtcome] at h

/-- Unless it is to be shown, the plan under the goal asked for is carried out. -/
theorem PlanFile.followed_of_course (h : f.course calls a world judge = .ok course)
    (hprint : a.print = false) : ∃ p options, f.plan (f.goal a) judge = .ok p ∧
      course = .followed (f.goal a)
        (Engine.execute calls options {} p world #[startEvent a (f.goal a) options]) := by
  unfold PlanFile.course at h
  obtain ⟨options, -, h⟩ := bind_eq_ok.1 h
  obtain ⟨p, hplan, h⟩ := bind_eq_ok.1 h
  rw [hprint, if_neg Bool.false_ne_true] at h
  exact ⟨p, options, hplan, (Except.ok.inj h).symm⟩

/-- If a run over a file is reported as a success, every element of the file has come to the goal
that its fate asks for. -/
theorem PlanFile.fulfilled_of_course (h : f.course calls a world judge = .ok course)
    (hprint : a.print = false) (hok : course.verdict.result = .ok ()) :
    ∃ p r c, f.plan (f.goal a) judge = .ok p ∧ course = .followed (f.goal a) r ∧
      r.outcome = .completed c ∧ c.outcome = (f.goal a).reported ∧
      f.Fulfilled p r.state.tracker := by
  obtain ⟨p, options, hplan, rfl⟩ := PlanFile.followed_of_course h hprint
  obtain ⟨c, hcompleted, hc⟩ := Course.completed_of_verdict hok
  have hfaithful := Engine.faithful_of_execute (PlanFile.placed_of_plan hplan) hcompleted
  exact ⟨p, _, c, hplan, rfl, hcompleted, hc, PlanFile.fulfilled_of_faithful hplan hfaithful hc⟩

/-- When the program reports success, the elements that were to be deleted are destroyed and all
others are deployed; the goal of the arguments, or else of the plan file, is the outcome that it
reports.  The same holds of the plan of the file in whatever order the callbacks of a run take their
turns. -/
theorem elements_meet_their_fates (f : PlanFile) (a : Arguments) (judge : Pattern.Judge) :
    (∀ (ω : Type) (calls : Engine.Callbacks ω) (world : ω) course,
      f.course calls a world judge = .ok course → a.print = false → course.verdict.result = .ok () →
      ∃ p r c, f.plan (f.goal a) judge = .ok p ∧ course = .followed (f.goal a) r ∧
        r.outcome = .completed c ∧ c.outcome = (f.goal a).reported ∧
        f.Fulfilled p r.state.tracker) ∧
    ∀ p, f.plan (f.goal a) judge = .ok p →
      ∀ (ω : Type) (ask : Condition → ω → Readiness × ω) concurrency timeout dryRun world log c s,
        Engine.Concludes ask concurrency timeout (.first p concurrency dryRun world log)
          (.completed c) s → c.outcome = (f.goal a).reported → f.Fulfilled p s.tracker := by
  refine ⟨fun _ _ _ _ h hprint hok => PlanFile.fulfilled_of_course h hprint hok, ?_⟩
  intro p hplan ω ask concurrency timeout dryRun world log c s hconcludes hc
  have hfaithful := hconcludes.faithful (PlanFile.placed_of_plan hplan)
  exact PlanFile.fulfilled_of_faithful hplan hfaithful hc

/-! ## Plan files with a goal of their own -/

theorem exists_of_map_toOption {ε α β : Type} {x : Except ε α} {g : α → β} {b : β}
    (h : x.toOption.map g = some b) : ∃ y, x = .ok y ∧ g y = b := by
  cases x with
  | error e => cases h
  | ok y => exact ⟨y, rfl, Option.some.inj h⟩

/-- A plan file of three elements, of which one is to go. -/
def mixed : PlanFile where
  options := { goal := .destroyed }
  elements := [("kept", { fate := .common }), ("new", { dependsOn := ["kept"] }),
    ("old", { fate := .deleted, dependsOn := ["kept"] })]
  actions := []
  series := []

theorem mixed_meets_its_fates : ∃ (p : Plan) (r : Engine.Report Directory) (n m : NodeId),
    mixed.course mixed.commands.callbacks {} {} = .ok (.followed .destroyed r) ∧
      p.nodeOf? "new" = some n ∧ r.state.tracker.status n = .deployed ∧
      p.nodeOf? "old" = some m ∧ r.state.tracker.status m = .destroyed := by
  obtain ⟨course, hcourse, hok⟩ := exists_of_map_toOption (g := (·.verdict.result)) (b := .ok ())
    (x := mixed.course mixed.commands.callbacks {} {}) (by decide +kernel)
  obtain ⟨p, r, c, hplan, rfl, -, -, hfulfilled⟩ :=
    (elements_meet_their_fates mixed {} Pattern.judge).1 _ _ _ _ hcourse rfl hok
  obtain ⟨n, hn, hnew⟩ := hfulfilled "new" _ (.tail _ (.head _))
  obtain ⟨m, hm, hold⟩ := hfulfilled "old" _ (.tail _ (.tail _ (.head _)))
  exact ⟨p, r, n, m, hcourse, hn, hnew, hm, hold⟩

/-- A plan file that asks for all to be destroyed, and does not say of its element that it is to
go. -/
def unsaid : PlanFile where
  options := { goal := .destroyed }
  elements := [("a", {})]
  actions := []
  series := []

/-- The plan file as it is written down. -/
def unsaidText : String := "[options]\ngoal = \"destroyed\"\n[element.a]\n"

/-- A directory that holds nothing but the plan file. -/
def unsaidDirectory : Directory where
  entries := [(["Deployplan.toml".toList], .file unsaidText.toList)]

/-- The run of a plan file says that all is destroyed, and its element is deployed. -/
theorem destroyed_with_element_deployed : ∃ (p : Plan) (r : Engine.Report Directory) (n : NodeId),
    PlanFile.load unsaidDirectory "Deployplan.toml" = .ok unsaid ∧
      unsaid.goal {} = .destroyed ∧ unsaid.plan .destroyed = .ok p ∧
      unsaid.course unsaid.commands.callbacks {} unsaidDirectory = .ok (.followed .destroyed r) ∧
      (Course.followed .destroyed r).verdict.result = .ok () ∧ p.nodeOf? "a" = some n ∧
      r.state.tracker.status n = .deployed := by
  have hload : PlanFile.load unsaidDirectory "Deployplan.toml" = .ok unsaid := by
    have hplain : "Deployplan.toml".contains '\x00' = false := by simp
    have hbytes : bytesAt unsaidDirectory "Deployplan.toml" = .ok unsaidText.toUTF8 := by
      unfold bytesAt
      rw [hplain]
      decide +kernel
    unfold PlanFile.load PlanFile.Draft.load
    rw [hbytes]
    decide +kernel
  obtain ⟨course, hcourse, hok⟩ := exists_of_map_toOption (g := (·.verdict.result)) (b := .ok ())
    (x := unsaid.course unsaid.commands.callbacks {} unsaidDirectory) (by decide +kernel)
  obtain ⟨p, r, c, hplan, rfl, -, -, hfulfilled⟩ := PlanFile.fulfilled_of_course hcourse rfl hok
  obtain ⟨n, hn, hstatus⟩ := hfulfilled "a" _ (.head _)
  exact ⟨p, r, n, hload, rfl, hplan, hcourse, hok, hn, hstatus⟩

end Rollout
