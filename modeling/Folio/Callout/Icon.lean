/-! The icons of the built-in callout themes, as inline SVG. -/

namespace Folio.Callout.Icon

/-- A filled icon on a grid of sixteen units, given by its one path. -/
def filled (path : String) : String :=
  "<svg xmlns=\"http://www.w3.org/2000/svg\" viewBox=\"0 0 16 16\" width=\"16\" " ++
    "height=\"16\"><path fill=\"currentColor\" d=\"" ++ path ++
    "\"></path></svg>"

/-- An icon drawn in strokes on a grid of twenty-four units. -/
def stroked (shapes : String) : String :=
  "<svg xmlns=\"http://www.w3.org/2000/svg\" width=\"1em\" height=\"1em\" viewBox=\"0 0 " ++
    "24 24\" fill=\"none\" stroke=\"currentColor\" stroke-width=\"2\" " ++
    "stroke-linecap=\"round\" stroke-linejoin=\"round\">" ++
    shapes ++ "</svg>"

def infoDisc : String := filled (
  "M0 8a8 8 0 1 1 16 0A8 8 0 0 1 0 8Zm8-6.5a6.5 6.5 0 1 0 0 13 6.5 6.5 0 0 0 0-13ZM6.5 " ++
  "7.75A.75.75 0 0 1 7.25 7h1a.75.75 0 0 1 .75.75v2.75h.25a.75.75 0 0 1 0 1.5h-2a.75.75 0 0 " ++
  "1 0-1.5h.25v-2h-.25a.75.75 0 0 1-.75-.75ZM8 6a1 1 0 1 1 0-2 1 1 0 0 1 0 2Z")

def lightBulb : String := filled (
  "M8 1.5c-2.363 0-4 1.69-4 3.75 0 .984.424 1.625.984 " ++
  "2.304l.214.253c.223.264.47.556.673.848.284.411.537.896.621 1.49a.75.75 0 0 " ++
  "1-1.484.211c-.04-.282-.163-.547-.37-.847a8.456 8.456 0 0 " ++
  "0-.542-.68c-.084-.1-.173-.205-.268-.32C3.201 7.75 2.5 6.766 2.5 5.25 2.5 2.31 4.863 0 8 " ++
  "0s5.5 2.31 5.5 5.25c0 1.516-.701 2.5-1.328 3.259-.095.115-.184.22-.268.319-.207.245-.383." ++
  "453-.541.681-.208.3-.33.565-.37.847a.751.751 0 0 " ++
  "1-1.485-.212c.084-.593.337-1.078.621-1.489.203-.292.45-.584.673-.848.075-.088.147-.173.21" ++
  "3-.253.561-.679.985-1.32.985-2.304 0-2.06-1.637-3.75-4-3.75ZM5.75 12h4.5a.75.75 0 0 1 0 " ++
  "1.5h-4.5a.75.75 0 0 1 0-1.5ZM6 15.25a.75.75 0 0 1 .75-.75h2.5a.75.75 0 0 1 0 " ++
  "1.5h-2.5a.75.75 0 0 1-.75-.75Z")

def report : String := filled (
  "M0 1.75C0 .784.784 0 1.75 0h12.5C15.216 0 16 .784 16 1.75v9.5A1.75 1.75 0 0 1 14.25 " ++
  "13H8.06l-2.573 2.573A1.458 1.458 0 0 1 3 14.543V13H1.75A1.75 1.75 0 0 1 0 " ++
  "11.25Zm1.75-.25a.25.25 0 0 0-.25.25v9.5c0 .138.112.25.25.25h2a.75.75 0 0 1 " ++
  ".75.75v2.19l2.72-2.72a.749.749 0 0 1 .53-.22h6.5a.25.25 0 0 0 .25-.25v-9.5a.25.25 0 0 " ++
  "0-.25-.25Zm7 2.25v2.5a.75.75 0 0 1-1.5 0v-2.5a.75.75 0 0 1 1.5 0ZM9 9a1 1 0 1 1-2 0 1 1 " ++
  "0 0 1 2 0Z")

def alert : String := filled (
  "M6.457 1.047c.659-1.234 2.427-1.234 3.086 0l6.082 11.378A1.75 1.75 0 0 1 14.082 " ++
  "15H1.918a1.75 1.75 0 0 1-1.543-2.575Zm1.763.707a.25.25 0 0 0-.44 0L1.698 13.132a.25.25 0 " ++
  "0 0 .22.368h12.164a.25.25 0 0 0 .22-.368Zm.53 3.996v2.5a.75.75 0 0 1-1.5 0v-2.5a.75.75 0 " ++
  "0 1 1.5 0ZM9 11a1 1 0 1 1-2 0 1 1 0 0 1 2 0Z")

def stop : String := filled (
  "M4.47.22A.749.749 0 0 1 5 0h6c.199 0 .389.079.53.22l4.25 " ++
  "4.25c.141.14.22.331.22.53v6a.749.749 0 0 1-.22.53l-4.25 4.25A.749.749 0 0 1 11 " ++
  "16H5a.749.749 0 0 1-.53-.22L.22 11.53A.749.749 0 0 1 0 11V5c0-.199.079-.389.22-.53Zm.84 " ++
  "1.28L1.5 5.31v5.38l3.81 3.81h5.38l3.81-3.81V5.31L10.69 1.5ZM8 4a.75.75 0 0 1 " ++
  ".75.75v3.5a.75.75 0 0 1-1.5 0v-3.5A.75.75 0 0 1 8 4Zm0 8a1 1 0 1 1 0-2 1 1 0 0 1 0 2Z")

def pencil : String := stroked (
  "<line x1=\"18\" y1=\"2\" x2=\"22\" y2=\"6\"></line><path d=\"M7.5 20.5 19 9l-4-4L3.5 " ++
  "16.5 2 22z\"></path>")

def clipboard : String := stroked (
  "<rect x=\"8\" y=\"2\" width=\"8\" height=\"4\" rx=\"1\" ry=\"1\"></rect><path d=\"M16 " ++
  "4h2a2 2 0 0 1 2 2v14a2 2 0 0 1-2 2H6a2 2 0 0 1-2-2V6a2 2 0 0 1 2-2h2\"></path><path " ++
  "d=\"M12 11h4\"></path><path d=\"M12 16h4\"></path><path d=\"M8 11h.01\"></path><path " ++
  "d=\"M8 16h.01\"></path>")

def infoCircle : String := stroked (
  "<circle cx=\"12\" cy=\"12\" r=\"10\"></circle><line x1=\"12\" y1=\"16\" x2=\"12\" " ++
  "y2=\"12\"></line><line x1=\"12\" y1=\"8\" x2=\"12.01\" y2=\"8\"></line>")

def checkCircle : String := stroked (
  "<path d=\"M12 22c5.523 0 10-4.477 10-10S17.523 2 12 2 2 6.477 2 12s4.477 10 10 " ++
  "10z\"></path><path d=\"m9 12 2 2 4-4\"></path>")

def flame : String := stroked (
  "<path d=\"M8.5 14.5A2.5 2.5 0 0 0 11 12c0-1.38-.5-2-1-3-1.072-2.143-.224-4.054 2-6 .5 " ++
  "2.5 2 4.9 4 6.5 2 1.6 3 3.5 3 5.5a7 7 0 1 1-14 0c0-1.153.433-2.294 1-3a2.5 2.5 0 0 0 2.5 " ++
  "2.5z\"></path>")

def check : String := stroked (
  "<polyline points=\"20 6 9 17 4 12\"></polyline>")

def help : String := stroked (
  "<circle cx=\"12\" cy=\"12\" r=\"10\"></circle><path d=\"M9.09 9a3 3 0 0 1 5.83 1c0 2-3 " ++
  "3-3 3\"></path><line x1=\"12\" y1=\"17\" x2=\"12.01\" y2=\"17\"></line>")

def triangle : String := stroked (
  "<path d=\"m21.73 18-8-14a2 2 0 0 0-3.48 0l-8 14A2 2 0 0 0 4 21h16a2 2 0 0 0 " ++
  "1.73-3Z\"></path><line x1=\"12\" y1=\"9\" x2=\"12\" y2=\"13\"></line><line x1=\"12\" " ++
  "y1=\"17\" x2=\"12.01\" y2=\"17\"></line>")

def cross : String := stroked (
  "<line x1=\"18\" y1=\"6\" x2=\"6\" y2=\"18\"></line><line x1=\"6\" y1=\"6\" x2=\"18\" " ++
  "y2=\"18\"></line>")

def bolt : String := stroked (
  "<polygon points=\"13 2 3 14 12 14 11 22 21 10 12 10 13 2\"></polygon>")

def bug : String := stroked (
  "<rect width=\"8\" height=\"14\" x=\"8\" y=\"6\" rx=\"4\"></rect><path d=\"m19 7-3 " ++
  "2\"></path><path d=\"m5 7 3 2\"></path><path d=\"m19 19-3-2\"></path><path d=\"m5 19 " ++
  "3-2\"></path><path d=\"M20 13h-4\"></path><path d=\"M4 13h4\"></path><path d=\"m10 4 1 " ++
  "2\"></path><path d=\"m14 4-1 2\"></path>")

def list : String := stroked (
  "<line x1=\"8\" y1=\"6\" x2=\"21\" y2=\"6\"></line><line x1=\"8\" y1=\"12\" x2=\"21\" " ++
  "y2=\"12\"></line><line x1=\"8\" y1=\"18\" x2=\"21\" y2=\"18\"></line><line x1=\"3\" " ++
  "y1=\"6\" x2=\"3.01\" y2=\"6\"></line><line x1=\"3\" y1=\"12\" x2=\"3.01\" " ++
  "y2=\"12\"></line><line x1=\"3\" y1=\"18\" x2=\"3.01\" y2=\"18\"></line>")

def quotes : String := stroked (
  "<path d=\"M3 21c3 0 7-1 7-8V5c0-1.25-.756-2.017-2-2H4c-1.25 0-2 .75-2 1.972V11c0 1.25.75 " ++
  "2 2 2 1 0 1 0 1 1v1c0 1-1 2-2 2s-1 .008-1 1.031V20c0 1 0 1 1 1z\"></path><path d=\"M15 " ++
  "21c3 0 7-1 7-8V5c0-1.25-.757-2.017-2-2h-4c-1.25 0-2 .75-2 1.972V11c0 1.25.75 2 2 2h.75c0 " ++
  "2.25.25 4-2.75 4v3c0 1 0 1 1 1z\"></path>")

/-- The chevron of a callout that can be folded. -/
def chevron : String := stroked (
  "<path d=\"m6 9 6 6 6-6\"></path>")

end Folio.Callout.Icon
