/-
This file makes the files of an export in plain markup.
-/

import Storyboard.Export.Navigation
import Storyboard.Export.Rendering

namespace Storyboard.MarkupExport

/-- The line that opens the content of a screen. -/
def contentTag (screen : RenderedScreen) : String :=
  "      <div " ++ Markup.plainAttribute "class" (.string "screen-content") ++ " " ++
    Declaration.plainAttribute screen.style ++ ">"

/-- A screen, of which only the first one is shown at the start. -/
def screenBlock (rendering : Rendering) (screen : RenderedScreen) : List String :=
  let display := if screen.index = 0 then "block" else "none"
  [s!"    <div class=\"screen\" id=\"screen-{screen.index}\" data-screen-index=\"{screen.index}\" " ++
      s!"style=\"display:{display}\">",
    contentTag screen,
    rendering.screenText screen 4,
    "      </div>",
    "    </div>"]

/-- The script that moves between the screens. -/
def navigationScript (count : Nat) : List String := [
  "  <script>",
  "    const screens = document.querySelectorAll('.screen');",
  s!"    const screenCount = {count};",
  "    const indicator = document.getElementById('screen-indicator');",
  "    let currentScreen = 0;",
  "",
  r"    function showScreen(index) {",
  r"      screens.forEach((screen, i) => {",
  "        screen.style.display = i === index ? 'block' : 'none';",
  r"      });",
  "      indicator.textContent = (index + 1) + ' of ' + screenCount;",
  r"    }",
  "",
  r"    function nextScreen() {",
  "      currentScreen = " ++ Navigation.Move.next.expression.text "currentScreen" "screenCount" ++ ";",
  "      showScreen(currentScreen);",
  r"    }",
  "",
  r"    function prevScreen() {",
  "      currentScreen = " ++ Navigation.Move.previous.expression.text "currentScreen" "screenCount" ++ ";",
  "      showScreen(currentScreen);",
  r"    }",
  "",
  "    document.getElementById('next-screen').addEventListener('click', nextScreen);",
  "    document.getElementById('prev-screen').addEventListener('click', prevScreen);",
  r"    document.addEventListener('keydown', (event) => {",
  "      if (event.key === 'ArrowRight') nextScreen();",
  "      if (event.key === 'ArrowLeft') prevScreen();",
  r"    });",
  "",
  "    showScreen(0);",
  "  </script>"]

/-- The page with all screens. -/
def page (rendering : Rendering) : File where
  path := "index.html"
  content :=
    let count := rendering.screens.length
    unlines <|
      ["<!DOCTYPE html>",
        r#"<html lang="en">"#,
        "<head>",
        r#"  <meta charset="UTF-8">"#,
        r#"  <meta name="viewport" content="width=device-width, initial-scale=1.0">"#,
        "  <title>" ++ Markup.escapeText rendering.componentName ++ "</title>"] ++
      (if rendering.options.includeStyles then [r#"  <link rel="stylesheet" href="styles.css">"#] else []) ++
      ["</head>",
        "<body>",
        r#"  <div class="prototype-container">"#,
        "\n".intercalate (rendering.screens.flatMap (screenBlock rendering)),
        r#"    <div class="nav-controls">"#,
        r#"      <button type="button" class="nav-btn" id="prev-screen">Previous</button>"#,
        s!"      <span class=\"nav-info\" id=\"screen-indicator\">1 of {count}</span>",
        r#"      <button type="button" class="nav-btn" id="next-screen">Next</button>"#,
        "    </div>",
        "  </div>"] ++
      navigationScript count ++
      ["</body>", "</html>"]

def files (rendering : Rendering) : List File :=
  rendering.withDescription (page rendering :: rendering.stylesheetFiles "styles.css" .plain)

end Storyboard.MarkupExport
