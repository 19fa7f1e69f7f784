import NativeMethod.Fragment

/-!
# Emissions — lines written and frames asked for, in any order

Code is emitted into buffers that may become parts of other buffers, and between any two lines it can turn
out that the method needs a managed frame.  Frame sites stay open for that long, so that it does not matter
when it turns out:

* `EmissionStep.emit`, `emitAll` — what a step and a run of steps do to a buffer and to the growth;
* `emitAll_eq` — a run appends the lines of its steps in order, and makes the requests among them;
* `Fragment.resolvedLines` — the lines of a rendering, each with the frame site it is the text of;
* `resolution_commutes_with_emission` — what a run resolves to depends on its lines and on whether it asked
  for a frame, and a frame changes the lines of frame sites only.
-/

namespace NativeMethod

/-! ## Steps -/

/-- A step of code that is being generated. -/
inductive EmissionStep where
  | code (indent : Nat) (text : String)
  | codeLines (indent : Nat) (texts : List String)
  | site (indent : Nat) (s : FrameSite)
  | blank
  /-- The method needs a managed frame. -/
  | request
  /-- What the steps emit into a buffer of their own is moved to the end of this one. -/
  | append (steps : List EmissionStep)

/-- What has been emitted so far. -/
structure Emission where
  buffer : List Fragment := []
  growth : Growth := {}

def Emission.write (e : Emission) (fs : List Fragment) : Emission :=
  { e with buffer := e.buffer ++ fs }

mutual

def EmissionStep.emit : EmissionStep → Emission → Emission
  | .code indent text, e => e.write [.code indent text]
  | .codeLines indent texts, e => e.write (Fragment.codeLines indent texts)
  | .site indent s, e => e.write [.site indent s]
  | .blank, e => e.write [.blank]
  | .request, e => { e with growth := e.growth.request }
  | .append steps, e =>
    -- buffers are many, and the growth is one for all of them
    let inner := emitAll steps { growth := e.growth }
    ⟨e.buffer ++ inner.buffer, inner.growth⟩

def emitAll : List EmissionStep → Emission → Emission
  | [], e => e
  | step :: steps, e => emitAll steps (step.emit e)

end

mutual

/-- The lines of a step, those of an inner buffer among them. -/
def EmissionStep.lines : EmissionStep → List Fragment
  | .code indent text => [.code indent text]
  | .codeLines indent texts => Fragment.codeLines indent texts
  | .site indent s => [.site indent s]
  | .blank => [.blank]
  | .request => []
  | .append steps => linesOf steps

def linesOf : List EmissionStep → List Fragment
  | [] => []
  | step :: steps => step.lines ++ linesOf steps

end

mutual

/-- How often a step asks for a frame, at any depth. -/
def EmissionStep.requests : EmissionStep → Nat
  | .request => 1
  | .append steps => requestsOf steps
  | _ => 0

def requestsOf : List EmissionStep → Nat
  | [] => 0
  | step :: steps => step.requests + requestsOf steps

end

mutual

/-- What is left of a step without its requests, at any depth. -/
def EmissionStep.withoutRequests : EmissionStep → List EmissionStep
  | .request => []
  | .append steps => [.append (removeRequests steps)]
  | step => [step]

def removeRequests : List EmissionStep → List EmissionStep
  | [] => []
  | step :: steps => step.withoutRequests ++ removeRequests steps

end

/-! ## Runs -/

mutual

theorem EmissionStep.emit_eq (e : Emission) :
    ∀ step : EmissionStep,
      step.emit e = ⟨e.buffer ++ step.lines, e.growth.requestTimes step.requests⟩
  | .code _ _ | .codeLines _ _ | .site _ _ | .blank => rfl
  | .request => by
      simp only [EmissionStep.emit, EmissionStep.lines, List.append_nil]
      rfl
  | .append steps => by
      simp only [EmissionStep.emit, EmissionStep.lines, EmissionStep.requests, emitAll_eq,
        List.nil_append]

/-- A run appends the lines of its steps in order, and makes the requests among them. -/
theorem emitAll_eq (e : Emission) :
    ∀ steps : List EmissionStep,
      emitAll steps e = ⟨e.buffer ++ linesOf steps, e.growth.requestTimes (requestsOf steps)⟩
  | [] => by
      simp only [emitAll, linesOf, List.append_nil]
      rfl
  | step :: steps => by
      simp only [emitAll, linesOf, requestsOf, EmissionStep.emit_eq e step, emitAll_eq,
        List.append_assoc, Growth.requestTimes_add]

end

theorem linesOf_append (ps qs : List EmissionStep) :
    linesOf (ps ++ qs) = linesOf ps ++ linesOf qs := by
  induction ps with
  | nil => rfl
  | cons step ps ih => simp only [List.cons_append, linesOf, ih, List.append_assoc]

mutual

theorem EmissionStep.linesOf_withoutRequests :
    ∀ step : EmissionStep, linesOf step.withoutRequests = step.lines
  | .code _ _ | .codeLines _ _ | .site _ _ | .blank => List.append_nil _
  | .request => rfl
  | .append steps => by
      simp only [EmissionStep.withoutRequests, linesOf, EmissionStep.lines,
        linesOf_removeRequests, List.append_nil]

/-- Requests leave no lines. -/
theorem linesOf_removeRequests :
    ∀ steps : List EmissionStep, linesOf (removeRequests steps) = linesOf steps
  | [] => rfl
  | step :: steps => by
      simp only [removeRequests, linesOf_append, linesOf, step.linesOf_withoutRequests,
        linesOf_removeRequests]

end

/-- The buffer that a run leaves behind. -/
def bufferOf (steps : List EmissionStep) : List Fragment := (emitAll steps {}).buffer

/-- What becomes of a run once the decision about the frame is made. -/
def resolve (steps : List EmissionStep) : Resolved :=
  (emitAll steps {}).growth.resolve (bufferOf steps)

theorem bufferOf_eq (steps : List EmissionStep) : bufferOf steps = linesOf steps := by
  simp only [bufferOf, emitAll_eq, List.nil_append]

/-- Of all requests it counts only whether there were any. -/
theorem resolve_eq (steps : List EmissionStep) :
    resolve steps =
      ⟨requestsOf steps != 0, Fragment.render (requestsOf steps != 0) (bufferOf steps)⟩ := by
  have hgrowth : (emitAll steps {}).growth.isRequested = (requestsOf steps != 0) := by
    simp only [emitAll_eq, Growth.isRequested_requestTimes, Bool.false_or]
  simp only [resolve, Growth.resolve, hgrowth]

/-! ## Lines of a rendering -/

/-- A line of a rendering, and the frame site that it is the text of. -/
structure ResolvedLine where
  indent : Nat
  text : String
  site? : Option FrameSite

namespace ResolvedLine

/-- The line with its tabs and its end. -/
def full (l : ResolvedLine) : String := Fragment.line l.indent l.text

/-- The line is the same with and without a frame. -/
def isOwn (l : ResolvedLine) : Bool := l.site?.isNone

end ResolvedLine

/-- The site leaves a line: entering and leaving a frame do so only if there is one. -/
def FrameSite.leavesLine (managed : Bool) : FrameSite → Bool
  | .acquire | .restore => managed
  | .leave _ | .fetch _ _ _ => true

theorem FrameSite.isSome_text? (managed : Bool) (s : FrameSite) :
    (s.text? managed).isSome = s.leavesLine managed := by
  cases s <;> cases managed <;> rfl

namespace Fragment

/-- The line of a fragment, unless it is a site that vanishes. -/
def resolvedLine? (managed : Bool) (f : Fragment) : Option ResolvedLine :=
  match f.content with
  | .code t => some ⟨f.indent, t, none⟩
  | .site s => (s.text? managed).map fun t => ⟨f.indent, t, some s⟩
  | .blank => some ⟨0, "", none⟩

/-- The lines of a rendering. -/
def resolvedLines (managed : Bool) (fs : List Fragment) : List ResolvedLine :=
  fs.filterMap (resolvedLine? managed)

/-- The line of a fragment that is code or blank. -/
def ownLine? (f : Fragment) : Option ResolvedLine :=
  match f.content with
  | .code t => some ⟨f.indent, t, none⟩
  | .site _ => none
  | .blank => some ⟨0, "", none⟩

variable (managed : Bool)

theorem text_eq_full (f : Fragment) :
    f.text managed = String.join ((f.resolvedLine? managed).toList.map ResolvedLine.full) := by
  cases f with
  | mk indent content =>
      cases content with
      | code t => simp [text, resolvedLine?, ResolvedLine.full, String.join]
      | blank => simp [text, resolvedLine?, ResolvedLine.full, String.join, line]
      | site s =>
          cases htext : s.text? managed with
          | none => simp [text, resolvedLine?, htext, String.join]
          | some t => simp [text, resolvedLine?, htext, ResolvedLine.full, String.join]

/-- A rendering is the text of its lines. -/
theorem render_eq_full (fs : List Fragment) :
    render managed fs = String.join ((resolvedLines managed fs).map ResolvedLine.full) := by
  induction fs with
  | nil => rfl
  | cons f fs ih =>
      have hlines : resolvedLines managed (f :: fs) =
          (f.resolvedLine? managed).toList ++ resolvedLines managed fs := by
        cases hline : f.resolvedLine? managed <;> simp [resolvedLines, hline]
      calc
        render managed (f :: fs) = f.text managed ++ render managed fs := by
            simp [render, String.join_cons]
        _ = String.join ((f.resolvedLine? managed).toList.map ResolvedLine.full) ++
              String.join ((resolvedLines managed fs).map ResolvedLine.full) := by
            rw [text_eq_full, ih]
        _ = String.join ((resolvedLines managed (f :: fs)).map ResolvedLine.full) := by
            rw [hlines, List.map_append, String.join_append]

/-- The frame decides about no line of code and no blank line. -/
theorem filter_isOwn_resolvedLines (fs : List Fragment) :
    (resolvedLines managed fs).filter ResolvedLine.isOwn = fs.filterMap ownLine? := by
  rw [resolvedLines, List.filter_filterMap]
  congr 1
  funext f
  rcases f with ⟨indent, content⟩
  cases content with
  | code t => rfl
  | blank => rfl
  | site s =>
      -- a site leaves no line or one that is marked
      cases htext : s.text? managed <;>
        simp [resolvedLine?, ownLine?, htext, ResolvedLine.isOwn]

/-- The other lines are those of the frame sites that leave one. -/
theorem filterMap_site?_resolvedLines (fs : List Fragment) :
    (resolvedLines managed fs).filterMap ResolvedLine.site? =
      (sites fs).filter (·.leavesLine managed) := by
  rw [resolvedLines, sites, List.filterMap_filterMap, List.filter_filterMap]
  congr 1
  funext f
  rcases f with ⟨indent, content⟩
  cases content with
  | code t => rfl
  | blank => rfl
  | site s =>
      have hleaves := s.isSome_text? managed
      cases htext : s.text? managed with
      | none =>
          rw [htext] at hleaves
          simp [resolvedLine?, site?, htext, Option.filter, ← hleaves]
      | some t =>
          rw [htext] at hleaves
          simp [resolvedLine?, site?, htext, Option.filter, ← hleaves]

end Fragment

/-! ## The order of steps -/

/-- What a run resolves to is determined by the lines in its buffer and by whether it asked for a frame at
all, so it does not matter where and how often it asked.  What is moved to the end of a buffer adds its own
text, frame sites and lines to those in front of it.  Whether there is a frame changes neither code nor
blank lines nor their order: the other lines are those of the frame sites, of which entering and leaving a
frame have none without it. -/
theorem resolution_commutes_with_emission (ps qs : List EmissionStep) :
    resolve ps =
        ⟨requestsOf ps != 0, Fragment.render (requestsOf ps != 0) (bufferOf ps)⟩ ∧
      (removeRequests ps = removeRequests qs → (requestsOf ps != 0) = (requestsOf qs != 0) →
        resolve ps = resolve qs) ∧
      (∀ managed, Fragment.render managed (bufferOf (ps ++ [.append qs])) =
        Fragment.render managed (bufferOf ps) ++ Fragment.render managed (bufferOf qs)) ∧
      Fragment.sites (bufferOf (ps ++ [.append qs])) =
        Fragment.sites (bufferOf ps) ++ Fragment.sites (bufferOf qs) ∧
      (bufferOf (ps ++ [.append qs])).length = (bufferOf ps).length + (bufferOf qs).length ∧
      ∀ managed,
        Fragment.render managed (bufferOf ps) =
            String.join ((Fragment.resolvedLines managed (bufferOf ps)).map ResolvedLine.full) ∧
          (Fragment.resolvedLines managed (bufferOf ps)).filter ResolvedLine.isOwn =
            (bufferOf ps).filterMap Fragment.ownLine? ∧
          (Fragment.resolvedLines managed (bufferOf ps)).filterMap ResolvedLine.site? =
            (Fragment.sites (bufferOf ps)).filter (·.leavesLine managed) := by
  have happended : bufferOf (ps ++ [.append qs]) = bufferOf ps ++ bufferOf qs := by
    simp only [bufferOf_eq, linesOf_append, linesOf, EmissionStep.lines, List.append_nil]
  refine ⟨resolve_eq ps, ?_, ?_, ?_, ?_, ?_⟩
  · intro hsteps hasked
    have hbuffer : bufferOf ps = bufferOf qs := by
      rw [bufferOf_eq, bufferOf_eq, ← linesOf_removeRequests ps, hsteps, linesOf_removeRequests]
    rw [resolve_eq, resolve_eq, hbuffer, hasked]
  · intro managed
    rw [happended, Fragment.render_append]
  · rw [happended, Fragment.sites_append]
  · rw [happended, List.length_append]
  · intro managed
    exact ⟨Fragment.render_eq_full managed _, Fragment.filter_isOwn_resolvedLines managed _,
      Fragment.filterMap_site?_resolvedLines managed _⟩

/-- A request in an inner buffer, behind a site that depends on it, and requests outside of it instead. -/
theorem resolve_of_late_request :
    let ps : List EmissionStep :=
      [.append [.site 1 .acquire, .request], .code 1 "x();", .site 1 (.leave .null)]
    let qs : List EmissionStep :=
      [.request, .append [.site 1 .acquire], .code 1 "x();", .request, .site 1 (.leave .null)]
    resolve ps = resolve qs ∧
      (resolve ps).code = "\tZEPHIR_MM_GROW();\n\tx();\n\tRETURN_MM_NULL();\n" := by
  intro ps qs
  have hsame := (resolution_commutes_with_emission ps qs).2.1 rfl rfl
  exact ⟨hsame, by decide +kernel⟩

end NativeMethod
