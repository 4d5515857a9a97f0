import GladeGo.Widget.Registry

/-! # The wxGo catalogue

The windows, widgets and containers of a wxGlade document that wxGo can build, by their bases. -/

namespace GladeGo

/-- The properties that windows of every class have. -/
def windowProperties : List Property := [
  ⟨"size", "SetSize", .size⟩,
  ⟨"background", "SetBackgroundColour", .colour⟩]

/-- The properties that widgets of every class have, sizers and custom widgets apart. -/
def widgetProperties : List Property := [
  ⟨"tooltip", "SetToolTip", .string⟩,
  ⟨"disabled", "Enable", .negatedFlag⟩,
  ⟨"hidden", "Show", .negatedFlag⟩,
  ⟨"background", "SetBackgroundColour", .colour⟩,
  ⟨"foreground", "SetForegroundColour", .colour⟩,
  ⟨"size", "SetMinSize", .size⟩]

/-- The widget of wxGo with the given name: its base is `EditName`, its Go type `wx.Name`. -/
def wxWidget (name : String) (arguments : List Slot) : WidgetClass where
  className := "wx" ++ name
  base := "Edit" ++ name
  typeName := "wx." ++ name
  constructor := "wx.New" ++ name
  arguments
  needsParent := true
  properties := widgetProperties

/-- The window of wxGo with the given name. -/
def wxWindow (name : String) : WindowClass where
  base := "Edit" ++ name
  typeName := "wx." ++ name
  constructor := "wx.New" ++ name
  selfField := name
  properties := windowProperties

/-- The slot for a widget's id, which is left to wxGo. -/
def anyId : Slot := .fixed "wx.ID_ANY"

/-- The slot for a widget's position, which is left to wxGo. -/
def defaultPosition : Slot := .fixed "wx.DefaultPosition"

/-- The slot for a widget's size, which is left to wxGo. -/
def defaultSize : Slot := .fixed "wx.DefaultSize"

/-- Box sizers: objects stand in `sizeritem` elements, and `sizerslot` elements are empty places. -/
def boxSizer : ContainerClass where
  toWidgetClass := { wxWidget "BoxSizer" [.ofElement "orient" .constant none] with
    needsParent := false
    properties := [] }
  kind := .sizer "orient"
  items := some ⟨"sizeritem", some "sizerslot"⟩
  itemArguments := [
    .ofElement "option" .integer none,
    .ofElement "flag" .constant (some "0"),
    .ofElement "border" .integer none]
  addMethod := "Add"
  parentsChildren := false
  cardinality := .exactlyOne

/-- Panels, which hold at most one object: their sizer. -/
def panel : ContainerClass where
  toWidgetClass := wxWidget "Panel" [anyId, defaultPosition, defaultSize,
    .ofElement "style" .constant (some "wx.TAB_TRAVERSAL")]
  kind := .window
  items := none
  itemArguments := []
  addMethod := "SetSizer"
  parentsChildren := true
  cardinality := .atMostOne

/-- Notebooks, which add each object as a page under the label of its tab. -/
def notebook : ContainerClass where
  toWidgetClass := wxWidget "Notebook" [anyId, defaultPosition, defaultSize,
    .ofElement "style" .constant (some "0"), .ofAttribute "name" .string]
  kind := .window
  items := none
  itemArguments := [.ofChild .tabLabel]
  addMethod := "AddPage"
  parentsChildren := true
  cardinality := .any

/-- The classes of widgets that hold no others. -/
def plainWidgets : List WidgetClass := [
  wxWidget "StaticText" [anyId, .ofElement "label" .string (some "\"\"")],
  wxWidget "ListBox" [anyId, defaultPosition, defaultSize, .fixed "[]string\x7b\x7d"],
  wxWidget "StaticBitmap" [anyId, .fixed "wx.NullBitmap"],
  wxWidget "Button" [anyId, .ofElement "label" .string none, defaultPosition, defaultSize,
    .fixed "0", .fixed "wx.DefaultValidator", .ofElement "label" .string none],
  wxWidget "TextCtrl" [anyId, .ofElement "value" .string (some "\"\""), defaultPosition,
    defaultSize, .ofElement "style" .constant (some "0")],
  wxWidget "CheckBox" [anyId, .ofElement "label" .string (some "\"\""), defaultPosition,
    defaultSize, .ofElement "style" .constant (some "0")]]

/-- Widgets of a type that the object names itself. -/
def customWidget : CustomClass where
  className := "CustomWidget"
  base := "CustomWidget"
  parentMarker := "$parent"
  tokens := [("$id", "wx.ID_ANY"), ("$width", "-1"), ("$height", "-1")]
  defaultArguments := ["$parent", "$id"]
  properties := []

/-- The registry of the wxGo catalogue. -/
def Registry.wxgo : Registry where
  descriptors := [.container boxSizer, .container panel, .container notebook] ++
    plainWidgets.map .widget ++ [.custom customWidget]
  windows := [wxWindow "Frame", wxWindow "Dialog"]
  ignored := ["EditSpacer"]
  spacer := some "EditSpacer"

end GladeGo
