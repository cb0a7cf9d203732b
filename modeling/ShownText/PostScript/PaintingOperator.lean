namespace ShownText.PostScript

inductive PaintingOperator
  | show
  | ashow
  | widthshow
  | awidthshow
  | xshow
  | yshow
  | xyshow
  | kshow
  deriving DecidableEq, Repr

namespace PaintingOperator

def name : PaintingOperator → String
  | .show => "show"
  | .ashow => "ashow"
  | .widthshow => "widthshow"
  | .awidthshow => "awidthshow"
  | .xshow => "xshow"
  | .yshow => "yshow"
  | .xyshow => "xyshow"
  | .kshow => "kshow"

def all : List PaintingOperator :=
  [.show, .ashow, .widthshow, .awidthshow, .xshow, .yshow, .xyshow, .kshow]

def ofName? (word : String) : Option PaintingOperator := all.find? (·.name == word)

theorem ofName?_name (op : PaintingOperator) : ofName? op.name = some op := by cases op <;> decide

theorem ofName?_eq_some_iff {word : String} {op : PaintingOperator} :
    ofName? word = some op ↔ op.name = word := by
  constructor
  · intro h
    simpa using List.find?_some h
  · rintro rfl
    exact ofName?_name op

end PaintingOperator

end ShownText.PostScript
