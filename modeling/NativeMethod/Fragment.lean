import NativeMethod.FrameSite

/-!
# Fragments

Generated code as a list of lines, some of them still open: each line is code, a frame site or
blank.  The list is turned into text in one step, once the decision about the frame is made.
-/

namespace NativeMethod

inductive Content where
  | code (text : String)
  | site (site : FrameSite)
  | blank
  deriving DecidableEq

/-- A line behind so many tabs. -/
structure Fragment where
  indent : Nat
  content : Content
  deriving DecidableEq

namespace Fragment

def code (indent : Nat) (text : String) : Fragment := ⟨indent, .code text⟩

def site (indent : Nat) (s : FrameSite) : Fragment := ⟨indent, .site s⟩

def blank : Fragment := ⟨0, .blank⟩

/-- Lines of code behind equally many tabs. -/
def codeLines (indent : Nat) (lines : List String) : List Fragment := lines.map (code indent)

def site? (f : Fragment) : Option FrameSite :=
  match f.content with
  | .site s => some s
  | _ => none

/-- A text as a line behind so many tabs. -/
def line (indent : Nat) (text : String) : String :=
  String.ofList (List.replicate indent '\t') ++ text ++ "\n"

/-- The text of one line; a site that vanishes leaves none. -/
def text (managed : Bool) (f : Fragment) : String :=
  match f.content with
  | .code t => line f.indent t
  | .site s =>
    match s.text? managed with
    | some t => line f.indent t
    | none => ""
  | .blank => "\n"

def render (managed : Bool) (fs : List Fragment) : String := String.join (fs.map (text managed))

/-- The frame sites of a list of lines, in order. -/
def sites (fs : List Fragment) : List FrameSite := fs.filterMap site?

/-! ## Laws -/

theorem render_append (managed : Bool) (fs gs : List Fragment) :
    render managed (fs ++ gs) = render managed fs ++ render managed gs := by
  simp [render, String.join_append]

theorem sites_append (fs gs : List Fragment) : sites (fs ++ gs) = sites fs ++ sites gs := by
  simp [sites]

theorem sites_codeLines (indent : Nat) (lines : List String) :
    sites (codeLines indent lines) = [] := by
  simp [sites, codeLines, site?, code]

end Fragment

/-- Code for which the decision about the frame has been made. -/
structure Resolved where
  managed : Bool
  code : String
  deriving DecidableEq

/-- Decides about the frame, which is managed if anyone asked for it, and renders all lines
accordingly. -/
def Growth.resolve (g : Growth) (fs : List Fragment) : Resolved :=
  ⟨g.isRequested, Fragment.render g.isRequested fs⟩

end NativeMethod
