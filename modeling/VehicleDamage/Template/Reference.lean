import VehicleDamage.Template.Catalog

/-!
The reference template: a vehicle seen from above with its eight body zones.
-/

namespace VehicleDamage

def referenceTemplate : String := "<svg
   class=\"damage-zone-svg\"
   xmlns:dc=\"http://purl.org/dc/elements/1.1/\"
   xmlns:cc=\"http://creativecommons.org/ns#\"
   xmlns:rdf=\"http://www.w3.org/1999/02/22-rdf-syntax-ns#\"
   xmlns:svg=\"http://www.w3.org/2000/svg\"
   xmlns=\"http://www.w3.org/2000/svg\"
   xmlns:sodipodi=\"http://sodipodi.sourceforge.net/DTD/sodipodi-0.dtd\"
   xmlns:inkscape=\"http://www.inkscape.org/namespaces/inkscape\"
   width=\"174\"
   height=\"89.485718\"
   id=\"svg2\"
   version=\"1.1\">
  <defs
     id=\"defs4\" />
  <sodipodi:namedview
     id=\"base\"
     pagecolor=\"#ffffff\"
     bordercolor=\"#666666\"
     borderopacity=\"1.0\"
     inkscape:pageopacity=\"0.0\"
     inkscape:pageshadow=\"2\"
     inkscape:zoom=\"2.8\"
     inkscape:cx=\"37.633141\"
     inkscape:cy=\"96.538946\"
     inkscape:document-units=\"px\"
     inkscape:current-layer=\"layer1\"
     showgrid=\"false\"
     showguides=\"false\"
     inkscape:guide-bbox=\"true\"
     inkscape:window-width=\"2009\"
     inkscape:window-height=\"1160\"
     inkscape:window-x=\"565\"
     inkscape:window-y=\"0\"
     inkscape:window-maximized=\"0\"
     fit-margin-top=\"0\"
     fit-margin-left=\"0\"
     fit-margin-right=\"0\"
     fit-margin-bottom=\"0\">
    <sodipodi:guide
       orientation=\"1,0\"
       position=\"53.907558,436.45116\"
       id=\"guide3877\"
       inkscape:locked=\"false\" />
    <sodipodi:guide
       orientation=\"1,0\"
       position=\"-152.26223,-297.6478\"
       id=\"guide3938\"
       inkscape:locked=\"false\" />
    <sodipodi:guide
       orientation=\"1,0\"
       position=\"263.8092,-296.57637\"
       id=\"guide3940\"
       inkscape:locked=\"false\" />
  </sodipodi:namedview>
  <metadata
     id=\"metadata7\">
    <rdf:RDF>
      <cc:Work
         rdf:about=\"\">
        <dc:format>image/svg+xml</dc:format>
        <dc:type
           rdf:resource=\"http://purl.org/dc/dcmitype/StillImage\" />
        <dc:title></dc:title>
      </cc:Work>
    </rdf:RDF>
  </metadata>
  <g
     id=\"layer1\"
     transform=\"translate(-318.33366,-463.80011)\">
    <path
       style=\"color:#000000;display:inline;overflow:visible;visibility:visible;fill:#ff0000;fill-opacity:1;fill-rule:nonzero;stroke:none;marker:none;enable-background:accumulate\"
       class=\"front-bumper\"
       d=\"m 475.24297,465.87983 c 5.14878,3.61944 10.95993,10.20237 13.98704,15.84467 1.72874,3.22225 2.30497,5.21415 2.60016,8.98821 0.3896,4.98092 0.50429,8.9516 0.50348,17.42881 -9.9e-4,8.49589 -0.12265,12.7603 -0.50385,17.64598 -0.29442,3.77281 -0.8708,5.76546 -2.59979,8.98821 -2.69115,5.01607 -7.39119,10.59645 -12.1854,14.46777 -1.54534,1.24786 -2.56444,1.95085 -2.5634,1.76826 4.4e-4,-0.077 0.0479,-0.55515 0.10532,-1.06281 0.0576,-0.50766 0.20072,-2.0225 0.31825,-3.3663 1.64142,-18.76882 2.06147,-38.56613 1.22574,-57.77026 -0.32898,-7.55922 -1.15237,-19.31444 -1.60788,-22.95475 l -0.0663,-0.53077 0.78667,0.55298 z\"
       id=\"path3900\" />
    <path
       style=\"fill:#ff0000;fill-opacity:1;stroke:none\"
       class=\"left-skirt\"
       d=\"m 444.64627,464.42958 c 0,0 -7.10155,6.7571 -17.67834,6.7571 -10.57679,0 -50.16418,-2.30357 -53.03501,-2.76427 -2.87085,-0.46071 -8.00814,-4.91426 -9.21692,-4.60713 -1.20877,0.30715 -1.02533,1.17493 -1.02533,3.88923 0,2.71432 0,3.94288 0,3.94288 0,0 -0.48563,1.22857 2.08302,1.68927 2.56864,0.46072 56.81243,0.61428 64.21618,0.76785 7.40374,0.1536 11.33226,1.38213 12.38994,-2.30355 1.05769,-3.68569 5.4395,-7.67853 2.26646,-7.37138 z\"
       id=\"path3768\" />
    <path
       style=\"color:#000000;display:inline;overflow:visible;visibility:visible;fill:#ff0000;fill-opacity:1;fill-rule:nonzero;stroke:none;marker:none;enable-background:accumulate\"
       class=\"rear-bumper\"
       d=\"m 318.4842,478.34628 c 0.35991,-7.62531 1.28961,-10.02709 4.67963,-12.08919 2.13723,-1.30005 6.48405,-2.24956 10.31021,-2.25215 l 1.86973,-10e-4 v 44.63331 44.63332 l -0.80131,-1.8e-4 c -1.32146,-2.3e-4 -5.42644,-0.41286 -6.57076,-0.66038 -3.13948,-0.67907 -5.24096,-1.67342 -6.68952,-3.16527 -1.5968,-1.64449 -2.2023,-3.35444 -2.63131,-7.43086 -0.30353,-2.88436 -0.44712,-57.7256 -0.16667,-63.66734 z\"
       id=\"path3936\" />
    <path
       style=\"fill:#424242;fill-opacity:1;stroke:none\"
       class=\"left-rear-tyre\"
       d=\"m 336.91318,477.34011 c 0,0 0,2.21102 0,3.18171 0,2.5885 0.12567,2.64242 3.6436,2.64242 4.27181,0 16.55989,0 18.72059,0 2.40116,0 3.33505,0.68481 3.33505,-1.6529 0,-2.33771 0,-14.74095 0,-15.92736 0,-1.18641 0.29796,-1.62439 -3.27754,-1.62439 -3.57548,0 -16.83065,0 -19.21784,0 -2.38718,0 -3.08204,0.64712 -3.08204,2.64571 0,1.9986 -0.12185,10.73481 -0.12185,10.73481 z\"
       id=\"path3790\" />
    <path
       style=\"fill:#424242;fill-opacity:1;stroke:none\"
       class=\"left-front-tyre\"
       d=\"m 446.87737,477.63968 c 0,0 0,2.21101 0,3.18171 0,2.5885 0.12567,2.64244 3.64361,2.64244 4.27181,0 16.55988,0 18.72058,0 2.40116,0 3.33505,0.68481 3.33505,-1.65291 0,-2.33771 0,-14.74097 0,-15.92737 0,-1.18639 0.29796,-1.6244 -3.27753,-1.6244 -3.57549,0 -16.83066,0 -19.21785,0 -2.38718,0 -3.08204,0.64714 -3.08204,2.64574 0,1.99858 -0.12185,10.73479 -0.12185,10.73479 z\"
       id=\"path3790-3\" />
    <path
       style=\"fill:#424242;fill-opacity:1;stroke:none\"
       class=\"right-front-tyre\"
       d=\"m 446.87737,539.42805 c 0,0 0,-2.21103 0,-3.18171 0,-2.58852 0.12567,-2.64244 3.64361,-2.64244 4.27181,0 16.55988,0 18.72058,0 2.40116,0 3.33505,-0.6848 3.33505,1.65291 0,2.33771 0,14.74097 0,15.92737 0,1.1864 0.29796,1.62438 -3.27753,1.62438 -3.57549,0 -16.83066,0 -19.21785,0 -2.38718,0 -3.08204,-0.64712 -3.08204,-2.64572 0,-1.9986 -0.12185,-10.73479 -0.12185,-10.73479 z\"
       id=\"path3790-3-7\" />
    <path
       style=\"fill:#424242;fill-opacity:1;stroke:none\"
       class=\"right-rear-tyre\"
       d=\"m 336.91318,539.90531 c 0,0 0,-2.21102 0,-3.1817 0,-2.58851 0.12567,-2.64243 3.6436,-2.64243 4.27181,0 16.55989,0 18.72059,0 2.40116,0 3.33505,-0.68481 3.33505,1.6529 0,2.33771 0,14.74097 0,15.92737 0,1.1864 0.29796,1.62438 -3.27754,1.62438 -3.57548,0 -16.83065,0 -19.21784,0 -2.38718,0 -3.08204,-0.64712 -3.08204,-2.64571 0,-1.9986 -0.12185,-10.73481 -0.12185,-10.73481 z\"
       id=\"path3790-2\" />
    <path
       style=\"fill:#ff0000;fill-opacity:1;stroke:none;stroke-width:0.49714285\"
       class=\"right-skirt\"
       d=\"m 444.64627,552.6558 c 0,0 -7.10155,-6.75711 -17.67834,-6.75711 -10.57679,0 -50.16418,2.30357 -53.03501,2.76428 -2.87085,0.4607 -8.00814,4.91425 -9.21692,4.60712 -1.20877,-0.30715 -1.02533,-1.17493 -1.02533,-3.88923 0,-2.71432 0,-3.94287 0,-3.94287 0,0 -0.48563,-1.22856 2.08302,-1.68928 2.56864,-0.46072 56.81243,-0.61428 64.21618,-0.76785 7.40374,-0.1536 11.33226,-1.38213 12.38994,2.30355 1.05769,3.68569 5.4395,7.67853 2.26646,7.37139 z\"
       id=\"path3768-1\" />
  </g>
</svg>
"

/-- The catalog that a set of markers finds in the reference template. -/
def Catalog.reference (markers : Markers) : Except TemplateFault Catalog :=
  Catalog.load markers referenceTemplate

end VehicleDamage
