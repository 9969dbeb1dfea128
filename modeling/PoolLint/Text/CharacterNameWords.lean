/-! The words that names of characters are made of, for letters of the larger alphabets, marks,
punctuation and symbols. -/
namespace PoolLint.Text

def characterNameWords : List String :=
  ["A ABOVE AC ACCENT ACCOMMODATION ACCOUNT ACTIVATE ACTUALLY ACUTE ADDRESS ADDRESSED ADI",
   "ADMISSION AE AERIAL AESCULAPIUS AFRICAN AIN AIRPLANE AKTIESELSKAB ALARM ALEF ALEMBIC ALERT",
   "ALIEN ALIGNED ALL ALMOST ALPHA ALTERNATE ALTERNATION ALTERNATIVE ALVEOLAR AMBULANCE",
   "AMERICAN AMERICAS AMPERSAND AMPHORA AN ANCHOR AND ANGEL ANGER ANGLE ANGRY ANGSTROM",
   "ANGUISHED ANKH ANNUITY ANO ANT ANTENNA ANTICLOCKWISE APL APOSTROPHE APPLE APPLICATION",
   "APPROACHES APPROXIMATELY AQUARIUS ARABIC ARC ARCH ARCHAIC ARIES AROUND-PROFILE ARRIVING",
   "ARROW ARROWHEAD ARROWS ARTICULATED ARTIST ARTS AS ASCENDING ASIA-AUSTRALIA ASSERTION",
   "ASTERISK ASTERISKS ASTERISM ASTONISHED ASTRONOMICAL ASYMPTOTICALLY AT ATHLETIC ATOM",
   "AUBERGINE AUSTRAL AUTO AUTOMATED AUTOMOBILE AYIN B BA BABY BACK BACK-TILTED BACKHAND",
   "BACKSLASH BACKSPACE BACTRIAN BADGE BADMINTON BAG BAGGAGE BAGS BALL BALLOON BALLOON-SPOKED",
   "BALLOT BALLPOINT BANANA BANK BANKNOTE BAR BARB BARBER BARS BASE BASEBALL BASKETBALL BAT",
   "BATH BATHTUB BATTERY BE BEACH BEADS BEAMED BEAR BEATING BECAUSE BED BEER BEETLE BEGINNER",
   "BEH BEHIND BEL BELL BELLHOP BELOW BENTO BENZENE BET BETA BETWEEN BEVERAGE BI BICEPS",
   "BICYCLE BICYCLES BICYCLIST BIKINI BILLIARDS BIOHAZARD BIRD BIRTHDAY BISECTING BISHOP",
   "BITCOIN BLACK BLACK-FEATHERED BLACK-LETTER BLADE BLOCK BLOND BLOSSOM BLOWFISH BLOWING BLUE",
   "BO BOAR BOARD BOAT BOLD BOLT BOM BOMB BONE BOOK BOOKMARK BOOKS BOOT BOOTS BOTH BOTTLE",
   "BOTTOM BOTTOM-LIGHTED BOUQUET BOW BOWING BOWL BOWLING BOWTIE BOX BOY BOYS BRACKET BRANCHES",
   "BREAD BREVE BRIDE BRIDGE BRIEFCASE BRIGHTNESS BROKEN BU BUBBLE BUBBLES BUFFALO BUG",
   "BUILDING BUILDINGS BULB BULLET BULLHORN BULLSEYE BUNNY BUOY BURRITO BUS BUSINESS BUST",
   "BUSTS BUT BUTTON BY BYELORUSSIAN-UKRAINIAN C CABINET CABLEWAY CACTUS CADA CADUCEUS CAKE",
   "CALCULATOR CALENDAR CAMEL CAMERA CAMPING CANCELLATION CANCER CANDLE CANDRABINDU CANDY",
   "CANOE CAP CAPITAL CAPPED CAPRICORN CAR CARD CARDS CARE CARET CARON CAROUSEL CARP CARRIAGE",
   "CARS CARTRIDGE CASTLE CAT CAUTION CEDI CEDILLA CEILING CELEBRATION CELSIUS CELTIC CENT",
   "CENTRE CEREMONY CERES CHAINS CHAPTER CHARACTER CHART CHE CHECK CHEERING CHEQUERED CHERRIES",
   "CHERRY CHESS CHESTNUT CHEVRON CHI CHICK CHICKEN CHILDREN CHIME CHIPMUNK CHIRON CHOCOLATE",
   "CHRISTMAS CHURCH CINEMA CIRCLE CIRCLED CIRCULAR CIRCUMFLEX CIRCUS CITYSCAPE CLAIM",
   "CLAMSHELL CLAPPER CLAPPING CLASSICAL CLEAR CLICK CLINKING CLIPBOARD CLOCK CLOCKWISE CLOSE",
   "CLOSED CLOSET CLOSING CLOTHES CLOUD CLOVER CLUB CLUB-SPOKED COASTER COCKTAIL COFFIN COLD",
   "COLLISION COLON COMBINING COMET COMMA COMMERCIAL COMPLEMENT COMPOSITION COMPRESSION",
   "COMPUTER COMPUTERS CONCAVE-POINTED CONFETTI CONFOUNDED CONFUSED CONICAL CONJUGATE",
   "CONJUNCTION CONSTANT CONSTRUCTION CONTAIN CONTAINING CONTAINS CONTINUOUS CONTOUR CONTROL",
   "CONVENIENCE CONVERGING COOKED COOKIE COOKING COPRODUCT COPTIC COPYRIGHT CORK CORNER",
   "CORNERS CORRESPONDS COUCH COUNTERBORE COUNTERSINK COUPLE COVER COW CRACKER CRAYON CREAM",
   "CREDIT CRESCENT CRICKET CROCODILE CROP CROSS CROSSBONES CROSSED CROSSHATCH CROSSING CROWN",
   "CRUZEIRO CRYING CRYSTAL CUBE CUP CURL CURLY CURRENCY CURRENT CURRY CURVED CUSTARD CUSTOMS",
   "CYCLONE CYLINDRICITY CYRILLIC D DA DAD DAGGER DAL DALET DANCER DANCING DANGO DARK DASH",
   "DASHED DAVID DB DE DECIDUOUS DECIMAL DECORATION DECORATIVE DECREASE DEEPLY DEFINITION",
   "DEGREE DEI DEL DELETE DELICIOUS DELIVERY DELTA DENTAL DENTISTRY DEPARTING DEPARTMENT",
   "DEPARTURE DERELICT DESCENDING DESERT DESIGN DESK DESKTOP DHARMA DI DIAERESIS DIAGONAL",
   "DIALYTIKA DIAMETER DIAMOND DIE DIESEL DIFFERENCE DIFFERENTIAL DIGAMMA DIGIT DIGRAM DIGRAPH",
   "DIMENSION DINGBAT DIRECT DIRECTIONAL DISABLED DISAPPOINTED DISC DISCONTINUOUS DISK DITTO",
   "DIVIDE DIVIDERS DIVIDES DIVISION DIVORCE DIZZY DJE DO DOCUMENT DOES DOG DOLLAR DOLLS",
   "DOLPHIN DONG DOOR DOT DOTLESS DOTS DOTTED DOUBLE DOUBLE-STRUCK DOUBLED DOUGHNUT DOVE DOWN",
   "DOWN-POINTING DOWNWARDS DRACHMA DRAFTING DRAGON DRAUGHTS DRAWINGS DRESS DRINK DRIVE",
   "DROMEDARY DROP-SHADOWED DROPLET DROPS DRUM DU DUSK DVD DZ DZE DZHE E E-MAIL EAR EARLY EARS",
   "EARTH EAST EF EIGHT EIGHT-THIRTY EIGHTEEN EIGHTH EIGHTHS EJECT EL ELECTRIC ELECTRICAL",
   "ELEMENT ELEPHANT ELEVATOR ELEVEN ELEVEN-THIRTY ELLIPSIS EM EMBEDDING EMBLEM EMOJI EMPHASIS",
   "EMPTY EN ENCLOSING END ENG ENGINE ENTER ENTERING ENTRY ENTRY-1 ENTRY-2 ENVELOPE EPSILON",
   "EQUAL EQUALS EQUIANGULAR EQUIVALENT ER ERASE ES ESCAPE ESH ESTIMATED ESTIMATES ET ETA ETH",
   "EULER EURO EURO-CURRENCY EUROPE-AFRICA EUROPEAN EVERGREEN EXCESS EXCHANGE EXCLAMATION",
   "EXIST EXISTS EXPONENT EXPRESSIONLESS EXTENDED EXTENSION EXTRATERRESTRIAL EYE EYEGLASSES",
   "EYES EZH F FACE FACE-1 FACE-2 FACE-3 FACE-4 FACE-5 FACE-6 FACING FACSIMILE FACTOR FACTORY",
   "FAHRENHEIT FALLEN FALLING FAMILY FARSI FATHER FAX FEAR FEARFUL FEED FEH FEI FEMALE",
   "FEMININE FERMATA FERRIS FERRY FF FFI FFL FI FIELD FIFTH FIFTHS FIFTY FIGURE FILE FILL FILM",
   "FINAL FINGER FINGERS FIRE FIREWORK FIREWORKS FIRST FISH FISHEYE FISHING FIST FISTED",
   "FITZPATRICK FIVE FIVE-THIRTY FL FLAG FLAGS FLASH FLAT FLATNESS FLATTENED FLEUR-DE-LIS",
   "FLEXED FLOOR FLOPPY FLORAL FLORETTE FLOWER FLOWERS FLOWING FLUSHED FLUTTERING FLYING FOG",
   "FOGGY FOLDED FOLDER FONT FOOD FOOT FOOTBALL FOOTPRINTS FOR FORCE FORCES FORK FORM",
   "FORMATTING FOUNTAIN FOUR FOUR-PER-EM FOUR-THIRTY FOURTH FRACTION FRAME FRAMES FRANC FRENCH",
   "FRIED FRIES FROG FROM FRONT-FACING FRONT-TILTED FROWN FROWNING FUEL FUJI FULL FUNCTION",
   "FUNCTIONAL FUNERAL FUSE G GA GAME GAMMA GANGIA GARDEN GE GEAR GEM GEMINI GENERIC GEOMETRIC",
   "GEOMETRICALLY GERMAN GESTURE GETA GHAIN GHE GHOST GI GIBBOUS GIMEL GIRL GIRLS GJE GLASS",
   "GLOBE GLOTTAL GLOWING GO GOAT GOBLIN GOLFER GOOD GRADUATION GRAPES GRAPHEME GRAVE",
   "GRAVEYARD GREATER GREATER-THAN GREEK GREEN GRIMACING GRINNING GROUND GROWING GU GUA",
   "GUARANI GUARDSMAN GUITAR H H-TYPE HA HAH HAIR HAIRCUT HALF HALF-CIRCLE HALO HAMBURGER",
   "HAMMER HAMSTER HAND HANDBAG HANDLE HANDLES HANDS HANGUL HANGZHOU HAPPY HARD HARPOON HAT",
   "HATCHING HE HEAD HEADED HEADPHONE HEADSTONE HEAR-NO-EVIL HEART HEART-SHAPED HEARTS HEAVEN",
   "HEAVY HEBREW HEH HELICOPTER HELM HELMET HERB HERMES HERMITIAN HET HETA HI HIBISCUS HIGH",
   "HIGH-HEELED HIGH-REVERSED-9 HIGH-SPEED HINDU HIRAGANA HISTORIC HIT HO HOCHO HOCKEY HOLDING",
   "HOLE HOMOTHETIC HONEY HONEYBEE HOOK HOOP HORI HORIZONTAL HORN HORNS HORSE HOSPITAL HOT",
   "HOTEL HOURGLASS HOUSE HRYVNIA HU HUB HUNDRED HUSHED HUT HV HWAIR HYGIEIA HYPHEN",
   "HYPHEN-MINUS HYPHENATION HYSTERESIS I I-BEAM ICE ICON IDENTICAL IDEOGRAPHIC IE IJ IMAGE",
   "IMP IN INBOX INCOMING INCREASE INCREMENT INDEX INDIAN INDICATOR INDUSTRIAL INFINITY",
   "INFORMATION INHIBIT INK INPUT INSERTION INSIDE INTEGRAL INTERCALATE INTEREST INTERLACED",
   "INTERLOCKED INTERROBANG INTERSECTION INVERSE INVERTED INVISIBLE IO IOTA ISLAND ISOLATE",
   "ITALIC ITERATION ITS IZAKAYA J JACK-O-LANTERN JACKS JAPAN JAPANESE JE JEANS JEEM JERUSALEM",
   "JOINED JOINER JOT JOY JOYSTICK JUNO JUPITER K KA KAABA KAF KAI KANA KAPPA KATAKANA",
   "KATAKANA-HIRAGANA KE KEHEH KELVIN KEY KEYBOARD KEYCAP KHAH KHEI KI KIMONO KING KIP KISS",
   "KISSING KJE KNIFE KNIGHT KNOBS KO KOALA KOPPA KORONIS KOTO KRA KU L L-TYPE LABEL LADY LAKE",
   "LAM LAMBDA LAMDA LAMED LAMP LANE LANES LANTERN LARGE LARI LAST LATE LATERAL LATIN LAZY",
   "LEADER LEAF LEDGER LEFT LEFT-HANDED LEFT-POINTING LEFT-SHADED LEFT-TO-RIGHT LEFTWARDS LEG",
   "LEMON LENTICULAR LEO LEOPARD LESS-THAN LESSER LETTER LETTERS LEVEL LEVITATING LIBERTY",
   "LIBRA LIFTER LIGATURE LIGHT LIGHTHOUSE LIGHTNING LILITH LIMIT LINE LINE-1 LINE-3 LINE-7",
   "LINE-9 LINES LINK LINKED LIPS LIPSTICK LIRA LITTER LIVRE LJ LJE LOCATION LOCK LOCOMOTIVE",
   "LOGICAL LOLLIPOP LONG LOOK LOOP LORRAINE LORRY LOUDLY LOUDSPEAKER LOVE LOW LOW-9 LOWER",
   "LOWERED LOZENGE LUGGAGE LUNATE M MA MACHINE MACRON MAGNIFYING MAILBOX MAIZE MAKSURA MALE",
   "MALTESE MAN MANAT MANS MANTELPIECE MAO MAP MAPLE MARBUTA MARK MARKS MARRIAGE MASCULINE",
   "MASK MASSAGE MASU MATERIALS MATHEMATICAL MATRIX MAXIMIZE ME MEASURED MEAT MEDAL MEDICAL",
   "MEDIUM MEEM MEGAPHONE MELON MEM MEMBER MEMBERSHIP MEMO MEN MENORAH MENS MERCURY MERGE",
   "MERIDIANS METRICAL METRO MI MICRO MICROPHONE MICROSCOPE MIDDLE MIDLINE MILITARY MILKY MILL",
   "MILLE MINIBUS MINIDISC MINIMIZE MINUS MINUS-OR-PLUS MO MOBILE MODE MODELS MODEM MODIFIER",
   "MONEY MONKEY MONOGRAM MONORAIL MONOSTABLE MONSTER MOOD MOON MOSQUE MOTOR MOTORCYCLE",
   "MOTORWAY MOUNT MOUNTAIN MOUNTAINS MOUSE MOUTH MOVIE MOYAI MU MUCH MUG MUGS MULTIMAP",
   "MULTIPLE MULTIPLICATION MULTISET MUSHROOM MUSIC MUSICAL N N-ARY NA NABLA NAIL NAIRA NAME",
   "NAND NARROW NATIONAL NATURAL NBSP NE NECKTIE NEGATED NEGATIVE NEITHER NEPTUNE NETWORKED",
   "NEUTER NEUTRAL NEW NEWSPAPER NEXT NI NIB NIGHT NINE NINE-THIRTY NINTH NJ NJE NO NO-BREAK",
   "NODE NOMINAL NON-BREAKING NON-JOINER NON-POTABLE NOON NOR NORDIC NORMAL NORTH",
   "NORTHEAST-POINTING NORTHWEST NOSE NOT NOTATION NOTCH NOTCHED NOTE NOTEBOOK NOTES NU NULL",
   "NUMBER NUMBERS NUMERAL NUMERATOR NUMERO NUN NUT O OBSERVER OCLOCK OCTAGONAL OCTOPUS ODEN",
   "OE OF OFF OFFICE OFFICER OGONEK OGRE OHM OI OIL OK OLD OLDER OM OMEGA OMICRON ON ON-OFF",
   "ONCOMING ONE ONE-THIRTY ONE-WAY OPEN OPEN-CIRCUIT-OUTPUT OPEN-HEADED OPEN-OUTLINED",
   "OPERATOR OPHIUCHUS OPPOSITION OPTICAL OPTION OR ORANGE ORDINAL ORIGIN ORIGINAL ORNAMENT",
   "ORTHODOX ORTHOGONAL OU OUNCE OUTBOX OUTLINED OVER OVERBAR OVERLAP OVERLAY OVERLINE",
   "OVERRIDE OX P PA PACKAGE PAD PADDLE PAGE PAGER PAGES PAGODA PAINTBRUSH PAIRED PALATAL",
   "PALATALIZED PALETTE PALLAS PALM PAMPHYLIAN PANDA PAPER PAPERCLIP PAPERCLIPS PARAGRAPH",
   "PARALLEL PARALLELOGRAM PARENTHESIS PARK PART PARTIAL PARTIALLY-RECYCLED PARTNERSHIP PARTY",
   "PASSENGER PASSIVE-PULL-DOWN-OUTPUT PASSIVE-PULL-UP-OUTPUT PASSPORT PAW PAWN PE PEACE PEACH",
   "PEAR PEDESTAL PEDESTRIAN PEDESTRIANS PEN PENCIL PENGUIN PENNANT PENNY PENSIVE PENTAGRAM",
   "PENTASEME PEPPER PER PERCENT PERFORMING PERISPOMENI PERMANENT PERSEVERING PERSON PERSONAL",
   "PERSPECTIVE PESETA PESO PETALLED PHI PHONE PHONES PI PICK PICKUP PICTURE PIECE PIG PILCROW",
   "PILE PILL PINE PINEAPPLE PINWHEEL PIRACY PISCES PISTOL PITCHFORK PIZZA PLACE PLANCK",
   "PLASTICS PLATE PLAYGROUND PLAYING PLUG PLUS PLUS-MINUS PLUTO PO POCKET POINT POINTED",
   "POINTER POINTING POINTS POLE POLICE POLISH POMMEE POO POODLE POP POPCORN POPPER POPPING",
   "PORTABLE POSITION POST POSTAL POSTBOX POT POTABLE POTATO POUCH POULTRY POUND POUTING POWER",
   "PRAYER PRECEDE PRECEDED PRECEDES PRESCRIPTION PRESENT PREVIOUS PRIME PRINCESS PRINT",
   "PRINTER PRINTS PRODUCT PROHIBITED PROJECTIVE PROJECTOR PROLONGED PROOF PROPELLER PROPERTY",
   "PROPORTION PROPORTIONAL PROVE PSI PU PUBLIC PUCK PUMP PUNCTUATION PURPLE PURSE PUSHPIN PUT",
   "Q QAF QOF QP QUAD QUADRANT QUADRUPLE QUARTER QUARTERS QUEEN QUESTION QUESTIONED QUILL",
   "QUINCUNX QUOTATION QUOTE R RA RABBIT RACING RACQUET RADICAL RADIO RADIOACTIVE RAIL RAILWAY",
   "RAIN RAINBOW RAISED RAISING RAM RAT RATIO RAYS RE RECEIVER RECORD RECORDER RECORDING",
   "RECREATIONAL RECTANGLE RECTILINEAR RECYCLED RECYCLING RED REFERENCE REGISTERED REH",
   "RELATION RELIEVED REMINDER REPEAT REPLACEMENT RESH RESPONSE RESTRICTED RESTROOM RETROFLEX",
   "RETURN REVERSE REVERSED REVOLVING RHO RI RIBBON RICE RICKSHAW RIGHT RIGHT-HANDED",
   "RIGHT-POINTING RIGHT-SHADED RIGHT-SHADOWED RIGHT-TO-LEFT RIGHTWARDS RING RINGING RISING RO",
   "ROASTED ROCKET ROLLED-UP ROLLER ROLLING ROMAN ROOK ROOSTER ROOT ROSE ROSETTE ROTATED ROUND",
   "ROUND-TIPPED ROUNDED ROWBOAT RU RUBLE RUGBY RULER RUNNER RUNNING RUNOUT RUPEE S SA SAD",
   "SAFETY SAGITTARIUS SAILBOAT SAKE SALTIRE SAMARITAN SAMEKH SAMPI SAN SAND SANDAL SANS-SERIF",
   "SASH SATCHEL SATELLITE SATURN SAUCER SAVOURING SAXOPHONE SCALES SCAN SCHOOL SCHWA SCISSORS",
   "SCOOTER SCORE SCORPIUS SCREAMING SCREEN SCRIPT SCROLL SCRUPLE SE SEAGULL SEAT SECTION",
   "SECTOR SEE-NO-EVIL SEEDLING SEEN SEGMENT SEMI-VOICED SEMICIRCLE SEMICOLON SEMIDIRECT",
   "SEMISEXTILE SEPARATOR SERVICE SESQUIQUADRATE SET SEVEN SEVEN-THIRTY SEVENTH SEXTILE SHA",
   "SHADE SHADOWED SHAKTI SHAMROCK SHAPE SHAPES SHAPING SHARP SHAVED SHCHA SHEEN SHEEP SHEI",
   "SHELL SHEQEL SHIELD SHIMA SHIN SHINTO SHIP SHIRT SHO SHOE SHOGI SHOOTING SHOPPING SHORT",
   "SHORTCAKE SHORTS SHOULDERED SHOWER SHRIMP SHRINE SHUTTLECOCK SI SICKLE SIDEWAYS SIGMA SIGN",
   "SILHOUETTE SINE SINGLE SITE SIX SIX-PER-EM SIX-THIRTY SIXTEEN SIXTEENTH SIXTH SIXTHS SIZE",
   "SKATE SKATEBOARD SKI SKIER SKULL SLASH SLED SLEEP SLEEPING SLEEPY SLEUTH SLICE SLIDE",
   "SLIDER SLIDING SLIGHTLY SLOPE SLOT SLOW SMALL SMILE SMILING SMIRKING SMOKING SNAIL SNAKE",
   "SNOW SNOWBOARDER SNOWFLAKE SNOWMAN SO SOCCER SOFT SOFTWARE-FUNCTION SOLIDUS SOM SOON SOUND",
   "SOURCE SOUTH SPACE SPADE SPAGHETTI SPARKLE SPARKLER SPARKLES SPARKLING SPEAK-NO-EVIL",
   "SPEAKER SPEAKING SPEECH SPEEDBOAT SPESMILO SPHERICAL SPIDER SPIRAL SPLASHING SPLAYED",
   "SPOKED SPORTS SPOUTING SPRINGS SPY SQUARE SQUARED SQUAT SQUIGGLE SQUISH ST STADIUM STAFF",
   "STAMPED STANDARD STAR STARS STATION STATUE STEAM STEAMING STEM STEREO STICK STIGMA STILE",
   "STOCK STONE STOP STOPWATCH STORE STRAIGHT STRAIGHTNESS STRAWBERRY STREAMER STRESS STRICTLY",
   "STRIPE STROKE STROKES STRONG STUCK-OUT STUDIO STUPA SU SUBGROUP SUBJECT SUBSCRIPT SUBSET",
   "SUCCEED SUCCEEDS SUIT SUMMATION SUN SUNFLOWER SUNGLASSES SUNRISE SUNSET SUPERSCRIPT",
   "SUPERSET SURFACE SURFER SUSHI SUSPENSION SWAPPING SWASH SWEAT SWEET SWIMMER SWIRL SWORDS",
   "SWUNG SYMBOL SYMBOLS SYMMETRIC SYMMETRY SYNAGOGUE SYRIAC SYRINGE T T-SHIRT TA TABLE TABS",
   "TABULATION TACK TACO TAH TAIL TAKE TANABATA TANGERINE TAPE TAPER TATWEEL TAU TAURUS TAV",
   "TAXI TE TEACUP TEAR-OFF TEARDROP-BARBED TEARDROP-SHANKED TEARDROP-SPOKED TEARS TEH",
   "TELEGRAPH TELEIA TELEPHONE TELESCOPE TELEVISION TELLER TEMPLE TEN TEN-THIRTY TENGE TENNIS",
   "TENT TENTH TET TETRASEME TEXT THAL THE THEH THERE THEREFORE THERMOMETER THETA THIN THIRD",
   "THIRDS THIRTY THORN THOUGHT THOUSAND THREE THREE-D THREE-PER-EM THREE-THIRTY THROWING",
   "THUMBS THUNDER THUNDERSTORM TI TICKET TICKETS TIE TIGER TIGHT TIGHTLY-CLOSED TILDE TILES",
   "TIMER TIMES TIP TIRED TIRONIAN TO TOILET TOKYO TOMATO TONE TONGUE TONOS TOP TOP-LIGHTED",
   "TOPBAR TORCH TORNADO TORTOISE TOTAL TOUCHTONE TOURNOIS TOWER TRACK TRACKBALL TRACTOR TRADE",
   "TRAFFIC TRAIN TRAM TRAMWAY TRAPEZIUM TRAY TREE TREND TRIANGLE TRIANGLE-HEADED TRIANGULAR",
   "TRICOLON TRIDENT TRIFOLIATE TRIGRAM TRIPLE TRISEME TRIUMPH TROLLEY TROLLEYBUS TROPHY",
   "TROPICAL TRUCK TRUE TRUMPET TSADI TSE TSHE TU TUGRIK TULIP TURBAN TURKISH TURNED TURNSTILE",
   "TURTLE TWELVE TWELVE-THIRTY TWENTY TWISTED TWO TWO-THIRTY TWO-WAY TYPE-1 TYPE-1-2 TYPE-2",
   "TYPE-3 TYPE-4 TYPE-5 TYPE-6 TYPE-7 U UKRAINIAN UMBRELLA UNA UNAMUSED UNDER UNDERBAR",
   "UNDERDOT UNDERLINE UNDERTIE UNDO UNION UNIVERSAL UNMARRIED UP UP-POINTING UPPER",
   "UPSIDE-DOWN UPSILON UPWARD UPWARDS URANUS URN V VA VANE VARIATION VAV VE VEHICLE VEIL",
   "VERSICLE VERTICAL VERTICALLY VERY VESTA VI VIBRATION VICTORY VIDEO VIDEOCASSETTE VIEWDATA",
   "VIEWING VIOLIN VIRGO VO VOICED VOLCANO VOLLEYBALL VOLTAGE VOLUME VU VULGAR W WA WALL",
   "WANING WARNING WASTEBASKET WATCH WATER WATERMELON WAVE WAVES WAVING WAVY WAW WAXING WAY WE",
   "WEARY WEB WEDDING WEDGE-TAILED WEIGHT WEST WHALE WHEEL WHEELCHAIR WHITE WHITE-FEATHERED WI",
   "WIDE WIDE-HEADED WIDTH WIND WINDOW WINE WINGS WINKING WIRED WITH WITHOUT WO WOLF WOMAN",
   "WOMANS WOMEN WOMENS WON WORD WORKER WORLD WORRIED WORSHIP WRAPPED WREATH WRENCH WRITING",
   "WRY WYNN X XI XOR Y YA YANG YEH YELLOW YEN YERU YI YIN YO YOD YOGH YORI YOT YPOGEGRAMMENI",
   "YR YU Z ZA ZAH ZAIN ZAYIN ZE ZERO ZETA ZHE ZI ZIGZAG ZILDE ZO ZU ZWJ ZWNJ ZWSP"]

end PoolLint.Text
