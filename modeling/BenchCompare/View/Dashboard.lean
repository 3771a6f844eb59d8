import BenchCompare.App
import BenchCompare.Timestamp.Basic
import BenchCompare.View.PickerDialog

/-!
# The dashboard on the screen

From the top: a box with the shareable link, the boxes of the selectors, a box with the comparison, and a line of
hints. The dialog of an open picker lies over them.

* `View.dashboard`: the frame of a dashboard at a given time.
-/

namespace BenchCompare.View

open Screen

/-! ### The link and the selectors -/

def headerLine (a : App) : Line :=
  colored .cyan a.page.address.shareUrl ::
    match a.note with
    | some note => [plain "  ", colored .red note]
    | none => []

/-- Draws a box with one line in it. -/
def drawLineBox (f : Frame) (area : Area) (title content : Line) : Frame :=
  (f.box area title).paragraph area.inner [content]

/-- The title and the content of a selector. -/
structure Selector where
  title : String
  content : Span

/-- The selector of a ref. -/
def refSelector (a : App) (side : Side) : Selector :=
  let p := a.picker side
  let chord := match a.bindings.chord? side with
    | some c => " (" ++ c.label ++ ")"
    | none => ""
  let text := p.display a.catalog placeholder
  { title := side.label ++ chord
    content := if p.value = "" ∧ p.label = "" then colored .darkGray text else plain text }

/-- The selector of a workload. -/
def workloadSelector (a : App) (side : Side) : Selector :=
  let value := a.params.workload side
  { title := side.label ++ (match side with | .old => " workload (w)" | .new => " workload (W)")
    content := if value = "" then colored .darkGray "(any)" else plain value }

def selectors (a : App) : List Selector :=
  (App.pickerSides a.kind).map (refSelector a)
    ++ if a.kind.usesWorkloads then [.old, .new].map (workloadSelector a) else []

def drawSelectors (f : Frame) (area : Area) (a : App) : Frame :=
  let all := selectors a
  (all.zip (area.columns all.length)).foldl (fun f s => drawLineBox f s.2 [plain s.1.title] [s.1.content]) f

/-! ### The comparison -/

/-- The name shown for a ref. -/
def refTitle (a : App) (value : String) : String :=
  if value = "" then "N/A"
  else match a.catalog with
    | some c => c.title value
    | none => shortRef value

/-- The refs that a page compares, each with the name of its side. -/
def comparedRefs (a : App) : List (String × String) :=
  (App.pickerSides a.kind).map fun side => (side.name, a.params.ref side)

def bodyTitle (a : App) (now : Moment) : Line :=
  colored .yellow (" -> ".intercalate ((comparedRefs a).map fun r => refTitle a r.2)) ::
    match a.updatedAt with
    | some ts => [plain "  ", colored .gray ((Timestamp.relative ts now).toOption.getD ts)]
    | none => []

def missingRefsHint : Kind → String
  | .foreignKeys => "Pick a commit or release to see its results."
  | .macrobench => "Pick an old and a new ref to compare them."

/-- The link to each commit that is compared. -/
def commitLines (a : App) : List Line :=
  (comparedRefs a).map fun r => [colored .gray (r.1 ++ ": "), colored .blue (a.config.commitUrl r.2)]

/-- Bars in every other line while a result is awaited. -/
def loadingLines (area : Area) : List Line :=
  (List.range area.height).map fun i =>
    if i % 2 = 0 then [colored .darkGray (String.ofList (List.replicate (area.width - 2) '░'))] else []

def drawStatus (f : Frame) (area : Area) (a : App) : Frame :=
  match a.page.status with
  | .notReady => f.paragraph area [[colored .gray (missingRefsHint a.kind)]]
  | .loading => f.paragraph area (loadingLines area)
  | .failed message => f.block area (wrap area.width (colored .red message).pieces)
  | .ready report =>
    let links := commitLines a
    drawReport (f.paragraph (area.top links.length) links) (area.belowTop links.length) report a.scroll

/-! ### Everything together -/

/-- What the keys do. -/
def hints (a : App) : List String :=
  ([Side.old, Side.new].filterMap fun side =>
      (a.bindings.chord? side).map fun c => c.label ++ ": " ++ side.name ++ " ref")
    ++ (if a.kind.usesWorkloads then ["w/W: workloads"] else []) ++ ["r: reload", "R: refs", "q: quit"]

/-- The rows of the link and of the selectors, three each if there are so many. They share fewer evenly, and the
link has the odd one. -/
def headRows (height : Nat) : Nat × Nat := (min 3 ((height + 1) / 2), min 3 (height / 2))

/-- The frame of a dashboard. -/
def dashboard (a : App) (now : Moment) (width height : Nat) : Frame :=
  let f := Frame.blank width height
  let (link, choice) := headRows height
  let header := f.area.top link
  let selection := (f.area.belowTop link).top choice
  let rest := (f.area.belowTop link).belowTop choice
  let body := rest.aboveFoot 1
  let footer := rest.foot 1
  let f := drawLineBox f header [headed .yellow a.kind.title] (headerLine a)
  let f := drawSelectors f selection a
  let f := drawStatus (f.box body (bodyTitle a now)) body.inner a
  let f := f.paragraph footer [[colored .darkGray ("  ".intercalate (hints a))]]
  match a.openSide? with
  | some side => drawPicker f (a.picker side) a.catalog a.note
  | none => f

end BenchCompare.View
