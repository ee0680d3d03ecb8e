/-
This file makes the files of an export in any format.
-/

import Storyboard.Export.ScriptExport
import Storyboard.Export.TemplateExport

namespace Storyboard

def Rendering.files (rendering : Rendering) : List File :=
  match rendering.format with
  | .html => MarkupExport.files rendering
  | .react => ScriptExport.files rendering
  | .vue => TemplateExport.files rendering
  | .moneyview => ScriptExport.designSystemFiles rendering

def Design.files (design : Design) (format : Format) (options : ExportOptions) : List File :=
  (design.render format options).files

end Storyboard
