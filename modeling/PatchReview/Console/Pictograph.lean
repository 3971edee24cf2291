import PatchReview.Text.Blank
import PatchReview.Text.CaseMap
import PatchReview.Text.Pieces

/-!
# Pictographs by name

Names of pictographs, which a console shows in place of a name between colons.
-/

namespace PatchReview
namespace Console

private def pictographsPart1 : List (String × Nat) :=
  [("+1", 0x1F44D), ("-1", 0x1F44E), ("100", 0x1F4AF), ("1234", 0x1F522), ("a", 0x1F170),
   ("abacus", 0x1F9EE), ("abc", 0x1F524), ("abcd", 0x1F521), ("accept", 0x1F251),
   ("accordion", 0x1FA97), ("adhesive_bandage", 0x1FA79), ("adult", 0x1F9D1),
   ("aerial_tramway", 0x1F6A1), ("airplane", 0x2708), ("airplane_arriving", 0x1F6EC),
   ("airplane_departure", 0x1F6EB), ("alarm_clock", 0x23F0), ("alien", 0x1F47D),
   ("alien_monster", 0x1F47E), ("ambulance", 0x1F691), ("american_football", 0x1F3C8),
   ("amphora", 0x1F3FA), ("anatomical_heart", 0x1FAC0), ("anchor", 0x2693), ("angel", 0x1F47C),
   ("anger", 0x1F4A2), ("anger_symbol", 0x1F4A2), ("angry", 0x1F620), ("angry_face", 0x1F620),
   ("anguished", 0x1F627), ("anguished_face", 0x1F627), ("ant", 0x1F41C),
   ("antenna_with_bars", 0x1F4F6),
   ("anticlockwise_downwards_and_upwards_open_circle_arrows", 0x1F504), ("apple", 0x1F34E),
   ("aquarius", 0x2652), ("aries", 0x2648), ("arrow_down", 0x2B07), ("arrow_left", 0x2B05),
   ("arrow_right", 0x27A1), ("arrow_up", 0x2B06), ("art", 0x1F3A8),
   ("articulated_lorry", 0x1F69B), ("artist_palette", 0x1F3A8), ("astonished", 0x1F632),
   ("astonished_face", 0x1F632), ("athletic_shoe", 0x1F45F), ("atm", 0x1F3E7),
   ("aubergine", 0x1F346), ("auto_rickshaw", 0x1F6FA), ("automated_teller_machine", 0x1F3E7),
   ("automobile", 0x1F697), ("avocado", 0x1F951), ("axe", 0x1FA93), ("b", 0x1F171),
   ("baby", 0x1F476), ("baby_angel", 0x1F47C), ("baby_bottle", 0x1F37C), ("baby_chick", 0x1F424),
   ("baby_symbol", 0x1F6BC), ("back", 0x1F519), ("back_with_leftwards_arrow_above", 0x1F519),
   ("bacon", 0x1F953), ("bactrian_camel", 0x1F42B), ("badger", 0x1F9A1),
   ("badminton_racquet_and_shuttlecock", 0x1F3F8), ("bagel", 0x1F96F), ("baggage_claim", 0x1F6C4),
   ("baguette_bread", 0x1F956), ("ball_of_yarn", 0x1F9F6), ("ballet_shoes", 0x1FA70),
   ("balloon", 0x1F388), ("banana", 0x1F34C), ("bangbang", 0x203C), ("banjo", 0x1FA95),
   ("bank", 0x1F3E6), ("banknote_with_dollar_sign", 0x1F4B5),
   ("banknote_with_euro_sign", 0x1F4B6), ("banknote_with_pound_sign", 0x1F4B7),
   ("banknote_with_yen_sign", 0x1F4B4), ("bar_chart", 0x1F4CA), ("bar_of_soap", 0x1F9FC),
   ("barber_pole", 0x1F488), ("baseball", 0x26BE), ("basket", 0x1F9FA), ("basketball", 0x1F3C0),
   ("basketball_and_hoop", 0x1F3C0), ("bat", 0x1F987), ("bath", 0x1F6C0), ("bathtub", 0x1F6C1),
   ("battery", 0x1F50B), ("beans", 0x1FAD8), ("bear", 0x1F43B), ("bear_face", 0x1F43B),
   ("bearded_person", 0x1F9D4), ("beating_heart", 0x1F493), ("beaver", 0x1F9AB),
   ("beer", 0x1F37A), ("beer_mug", 0x1F37A), ("beers", 0x1F37B), ("beetle", 0x1FAB2),
   ("bell", 0x1F514), ("bell_pepper", 0x1FAD1), ("bell_with_cancellation_stroke", 0x1F515),
   ("bento_box", 0x1F371), ("beverage_box", 0x1F9C3), ("bicycle", 0x1F6B2),
   ("bicyclist", 0x1F6B4), ("bike", 0x1F6B2), ("bikini", 0x1F459), ("billed_cap", 0x1F9E2),
   ("billiards", 0x1F3B1), ("bird", 0x1F426), ("birthday", 0x1F382), ("birthday_cake", 0x1F382),
   ("bison", 0x1F9AC), ("biting_lip", 0x1FAE6), ("black_down-pointing_double_triangle", 0x23EC),
   ("black_heart", 0x1F5A4), ("black_large_square", 0x2B1B),
   ("black_left-pointing_double_triangle", 0x23EA), ("black_question_mark_ornament", 0x2753),
   ("black_right-pointing_double_triangle", 0x23E9), ("black_square_button", 0x1F532),
   ("black_up-pointing_double_triangle", 0x23EB), ("blossom", 0x1F33C), ("blowfish", 0x1F421),
   ("blue_book", 0x1F4D8), ("blue_heart", 0x1F499), ("blueberries", 0x1FAD0), ("blush", 0x1F60A),
   ("boar", 0x1F417), ("boat", 0x26F5), ("bomb", 0x1F4A3), ("bone", 0x1F9B4), ("book", 0x1F4D6),
   ("bookmark", 0x1F516), ("bookmark_tabs", 0x1F4D1), ("books", 0x1F4DA), ("boom", 0x1F4A5),
   ("boomerang", 0x1FA83), ("bottle_with_popping_cork", 0x1F37E), ("bouquet", 0x1F490),
   ("bow", 0x1F647), ("bow_and_arrow", 0x1F3F9), ("bowl_with_spoon", 0x1F963),
   ("bowling", 0x1F3B3), ("boxing_glove", 0x1F94A), ("boy", 0x1F466), ("brain", 0x1F9E0)]

private def pictographsPart2 : List (String × Nat) :=
  [("bread", 0x1F35E), ("breast-feeding", 0x1F931), ("brick", 0x1F9F1),
   ("bride_with_veil", 0x1F470), ("bridge_at_night", 0x1F309), ("briefcase", 0x1F4BC),
   ("briefs", 0x1FA72), ("broccoli", 0x1F966), ("broken_heart", 0x1F494), ("broom", 0x1F9F9),
   ("brown_heart", 0x1F90E), ("bubble_tea", 0x1F9CB), ("bubbles", 0x1FAE7), ("bucket", 0x1FAA3),
   ("bug", 0x1F41B), ("bulb", 0x1F4A1), ("burrito", 0x1F32F), ("bus", 0x1F68C),
   ("bus_stop", 0x1F68F), ("bust_in_silhouette", 0x1F464), ("busts_in_silhouette", 0x1F465),
   ("butter", 0x1F9C8), ("butterfly", 0x1F98B), ("cactus", 0x1F335), ("cake", 0x1F370),
   ("calendar", 0x1F4C6), ("call_me_hand", 0x1F919), ("camera", 0x1F4F7),
   ("camera_with_flash", 0x1F4F8), ("cancer", 0x264B), ("candy", 0x1F36C),
   ("canned_food", 0x1F96B), ("canoe", 0x1F6F6), ("capricorn", 0x2651), ("car", 0x1F697),
   ("card_index", 0x1F4C7), ("carousel_horse", 0x1F3A0), ("carp_streamer", 0x1F38F),
   ("carpentry_saw", 0x1FA9A), ("carrot", 0x1F955), ("cat", 0x1F431), ("cat_face", 0x1F431),
   ("cat_face_with_tears_of_joy", 0x1F639), ("cat_face_with_wry_smile", 0x1F63C), ("cd", 0x1F4BF),
   ("chair", 0x1FA91), ("chart_with_downwards_trend", 0x1F4C9),
   ("chart_with_upwards_trend", 0x1F4C8), ("chart_with_upwards_trend_and_yen_sign", 0x1F4B9),
   ("check_mark", 0x2714), ("check_mark_button", 0x2705), ("cheering_megaphone", 0x1F4E3),
   ("cheese_wedge", 0x1F9C0), ("chequered_flag", 0x1F3C1), ("cherries", 0x1F352),
   ("cherry_blossom", 0x1F338), ("chestnut", 0x1F330), ("chicken", 0x1F414), ("child", 0x1F9D2),
   ("children_crossing", 0x1F6B8), ("chocolate_bar", 0x1F36B), ("chopsticks", 0x1F962),
   ("christmas_tree", 0x1F384), ("church", 0x26EA), ("cinema", 0x1F3A6), ("circus_tent", 0x1F3AA),
   ("cityscape_at_dusk", 0x1F306), ("clap", 0x1F44F), ("clapper_board", 0x1F3AC),
   ("clapping_hands_sign", 0x1F44F), ("clinking_beer_mugs", 0x1F37B),
   ("clinking_glasses", 0x1F942), ("clipboard", 0x1F4CB), ("clock_face_eight-thirty", 0x1F563),
   ("clock_face_eight_oclock", 0x1F557), ("clock_face_eleven-thirty", 0x1F566),
   ("clock_face_eleven_oclock", 0x1F55A), ("clock_face_five-thirty", 0x1F560),
   ("clock_face_five_oclock", 0x1F554), ("clock_face_four-thirty", 0x1F55F),
   ("clock_face_four_oclock", 0x1F553), ("clock_face_nine-thirty", 0x1F564),
   ("clock_face_nine_oclock", 0x1F558), ("clock_face_one-thirty", 0x1F55C),
   ("clock_face_one_oclock", 0x1F550), ("clock_face_seven-thirty", 0x1F562),
   ("clock_face_seven_oclock", 0x1F556), ("clock_face_six-thirty", 0x1F561),
   ("clock_face_six_oclock", 0x1F555), ("clock_face_ten-thirty", 0x1F565),
   ("clock_face_ten_oclock", 0x1F559), ("clock_face_three-thirty", 0x1F55E),
   ("clock_face_three_oclock", 0x1F552), ("clock_face_twelve-thirty", 0x1F567),
   ("clock_face_twelve_oclock", 0x1F55B), ("clock_face_two-thirty", 0x1F55D),
   ("clock_face_two_oclock", 0x1F551),
   ("clockwise_downwards_and_upwards_open_circle_arrows", 0x1F503),
   ("clockwise_rightwards_and_leftwards_open_circle_arrows", 0x1F501),
   ("clockwise_rightwards_and_leftwards_open_circle_arrows_with_circled_one_overlay", 0x1F502),
   ("closed_book", 0x1F4D5), ("closed_lock_with_key", 0x1F510),
   ("closed_mailbox_with_lowered_flag", 0x1F4EA), ("closed_mailbox_with_raised_flag", 0x1F4EB),
   ("closed_umbrella", 0x1F302), ("cloud", 0x2601), ("clown_face", 0x1F921), ("coat", 0x1F9E5),
   ("cockroach", 0x1FAB3), ("cocktail", 0x1F378), ("cocktail_glass", 0x1F378),
   ("coconut", 0x1F965), ("coffee", 0x2615), ("coin", 0x1FA99), ("collision", 0x1F4A5),
   ("collision_symbol", 0x1F4A5), ("compass", 0x1F9ED), ("computer", 0x1F4BB),
   ("confetti_ball", 0x1F38A), ("confounded_face", 0x1F616), ("confused", 0x1F615),
   ("confused_face", 0x1F615), ("construction", 0x1F6A7), ("construction_sign", 0x1F6A7),
   ("construction_worker", 0x1F477), ("convenience_store", 0x1F3EA), ("cooked_rice", 0x1F35A),
   ("cookie", 0x1F36A), ("cooking", 0x1F373), ("cool", 0x1F192), ("cop", 0x1F46E),
   ("copyright", 0xA9), ("coral", 0x1FAB8), ("corn", 0x1F33D), ("couple_with_heart", 0x1F491),
   ("cow", 0x1F42E), ("cow_face", 0x1F42E), ("crab", 0x1F980), ("credit_card", 0x1F4B3),
   ("crescent_moon", 0x1F319), ("cricket", 0x1F997), ("cricket_bat_and_ball", 0x1F3CF),
   ("crocodile", 0x1F40A), ("croissant", 0x1F950), ("cross_mark", 0x274C),
   ("crossed_flags", 0x1F38C), ("crown", 0x1F451), ("crutch", 0x1FA7C), ("cry", 0x1F622),
   ("crying_cat_face", 0x1F63F)]

private def pictographsPart3 : List (String × Nat) :=
  [("crying_face", 0x1F622), ("crystal_ball", 0x1F52E), ("cucumber", 0x1F952),
   ("cup_with_straw", 0x1F964), ("cupcake", 0x1F9C1), ("curling_stone", 0x1F94C),
   ("curly_loop", 0x27B0), ("currency_exchange", 0x1F4B1), ("curry_and_rice", 0x1F35B),
   ("custard", 0x1F36E), ("customs", 0x1F6C3), ("cut_of_meat", 0x1F969), ("cyclone", 0x1F300),
   ("dancer", 0x1F483), ("dango", 0x1F361), ("dart", 0x1F3AF), ("dash", 0x1F4A8),
   ("dash_symbol", 0x1F4A8), ("date", 0x1F4C5), ("deaf_person", 0x1F9CF),
   ("deciduous_tree", 0x1F333), ("deer", 0x1F98C), ("delivery_truck", 0x1F69A),
   ("department_store", 0x1F3EC), ("diamond_shape_with_a_dot_inside", 0x1F4A0),
   ("diamonds", 0x2666), ("direct_hit", 0x1F3AF), ("disappointed", 0x1F61E),
   ("disappointed_but_relieved_face", 0x1F625), ("disappointed_face", 0x1F61E),
   ("disguised_face", 0x1F978), ("diving_mask", 0x1F93F), ("diya_lamp", 0x1FA94),
   ("dizzy", 0x1F4AB), ("dizzy_face", 0x1F635), ("dizzy_symbol", 0x1F4AB),
   ("dna_double_helix", 0x1F9EC), ("do_not_litter_symbol", 0x1F6AF), ("dodo", 0x1F9A4),
   ("dog", 0x1F436), ("dog_face", 0x1F436), ("dollar", 0x1F4B5), ("dolphin", 0x1F42C),
   ("door", 0x1F6AA), ("dotted_line_face", 0x1FAE5), ("double_curly_loop", 0x27BF),
   ("doughnut", 0x1F369), ("down-pointing_red_triangle", 0x1F53B),
   ("down-pointing_small_red_triangle", 0x1F53D), ("dragon", 0x1F409), ("dragon_face", 0x1F432),
   ("dress", 0x1F457), ("dromedary_camel", 0x1F42A), ("drooling_face", 0x1F924),
   ("drop_of_blood", 0x1FA78), ("droplet", 0x1F4A7), ("drum_with_drumsticks", 0x1F941),
   ("duck", 0x1F986), ("dumpling", 0x1F95F), ("dvd", 0x1F4C0), ("e-mail_symbol", 0x1F4E7),
   ("eagle", 0x1F985), ("ear", 0x1F442), ("ear_of_maize", 0x1F33D), ("ear_of_rice", 0x1F33E),
   ("ear_with_hearing_aid", 0x1F9BB), ("earth_africa", 0x1F30D), ("earth_americas", 0x1F30E),
   ("earth_asia", 0x1F30F), ("earth_globe_americas", 0x1F30E),
   ("earth_globe_asia-australia", 0x1F30F), ("earth_globe_europe-africa", 0x1F30D),
   ("egg", 0x1F95A), ("eight_ball", 0x1F3B1), ("electric_light_bulb", 0x1F4A1),
   ("electric_plug", 0x1F50C), ("electric_torch", 0x1F526), ("elephant", 0x1F418),
   ("elevator", 0x1F6D7), ("elf", 0x1F9DD), ("email", 0x2709), ("emoji_component_bald", 0x1F9B2),
   ("emoji_component_curly_hair", 0x1F9B1), ("emoji_component_red_hair", 0x1F9B0),
   ("emoji_component_white_hair", 0x1F9B3), ("empty_nest", 0x1FAB9), ("end", 0x1F51A),
   ("end_with_leftwards_arrow_above", 0x1F51A), ("envelope", 0x2709),
   ("envelope_with_downwards_arrow_above", 0x1F4E9), ("euro", 0x1F4B6),
   ("european_castle", 0x1F3F0), ("european_post_office", 0x1F3E4), ("evergreen_tree", 0x1F332),
   ("exclamation", 0x2757), ("expressionless", 0x1F611), ("expressionless_face", 0x1F611),
   ("extraterrestrial_alien", 0x1F47D), ("eye", 0x1F441), ("eyeglasses", 0x1F453),
   ("eyes", 0x1F440), ("face_holding_back_tears", 0x1F979), ("face_massage", 0x1F486),
   ("face_palm", 0x1F926), ("face_savouring_delicious_food", 0x1F60B),
   ("face_screaming_in_fear", 0x1F631), ("face_throwing_a_kiss", 0x1F618),
   ("face_with_cold_sweat", 0x1F613), ("face_with_cowboy_hat", 0x1F920),
   ("face_with_diagonal_mouth", 0x1FAE4), ("face_with_finger_covering_closed_lips", 0x1F92B),
   ("face_with_head-bandage", 0x1F915), ("face_with_look_of_triumph", 0x1F624),
   ("face_with_medical_mask", 0x1F637), ("face_with_monocle", 0x1F9D0),
   ("face_with_no_good_gesture", 0x1F645), ("face_with_ok_gesture", 0x1F646),
   ("face_with_one_eyebrow_raised", 0x1F928),
   ("face_with_open_eyes_and_hand_over_mouth", 0x1FAE2), ("face_with_open_mouth", 0x1F62E),
   ("face_with_open_mouth_and_cold_sweat", 0x1F630), ("face_with_open_mouth_vomiting", 0x1F92E),
   ("face_with_party_horn_and_party_hat", 0x1F973), ("face_with_peeking_eye", 0x1FAE3),
   ("face_with_pleading_eyes", 0x1F97A), ("face_with_rolling_eyes", 0x1F644),
   ("face_with_stuck-out_tongue", 0x1F61B),
   ("face_with_stuck-out_tongue_and_tightly-closed_eyes", 0x1F61D),
   ("face_with_stuck-out_tongue_and_winking_eye", 0x1F61C), ("face_with_tears_of_joy", 0x1F602),
   ("face_with_thermometer", 0x1F912), ("face_with_uneven_eyes_and_wavy_mouth", 0x1F974),
   ("face_without_mouth", 0x1F636), ("facepunch", 0x1F44A), ("factory", 0x1F3ED),
   ("fairy", 0x1F9DA), ("falafel", 0x1F9C6), ("fallen_leaf", 0x1F342), ("family", 0x1F46A),
   ("father_christmas", 0x1F385), ("fax_machine", 0x1F4E0), ("fearful", 0x1F628),
   ("fearful_face", 0x1F628), ("feather", 0x1FAB6), ("fencer", 0x1F93A),
   ("ferris_wheel", 0x1F3A1), ("field_hockey_stick_and_ball", 0x1F3D1), ("file_folder", 0x1F4C1),
   ("fire", 0x1F525), ("fire_engine", 0x1F692)]

private def pictographsPart4 : List (String × Nat) :=
  [("fire_extinguisher", 0x1F9EF), ("firecracker", 0x1F9E8), ("firework_sparkler", 0x1F387),
   ("fireworks", 0x1F386), ("first_place_medal", 0x1F947), ("first_quarter_moon_symbol", 0x1F313),
   ("first_quarter_moon_with_face", 0x1F31B), ("fish", 0x1F41F),
   ("fish_cake_with_swirl_design", 0x1F365), ("fishing_pole_and_fish", 0x1F3A3), ("fist", 0x270A),
   ("fisted_hand_sign", 0x1F44A), ("flag_in_hole", 0x26F3), ("flags", 0x1F38F),
   ("flamingo", 0x1F9A9), ("flashlight", 0x1F526), ("flat_shoe", 0x1F97F), ("flatbread", 0x1FAD3),
   ("flexed_biceps", 0x1F4AA), ("floppy_disk", 0x1F4BE), ("flower_playing_cards", 0x1F3B4),
   ("flushed", 0x1F633), ("flushed_face", 0x1F633), ("fly", 0x1FAB0), ("flying_disc", 0x1F94F),
   ("flying_saucer", 0x1F6F8), ("foggy", 0x1F301), ("fondue", 0x1FAD5), ("foot", 0x1F9B6),
   ("football", 0x1F3C8), ("footprints", 0x1F463), ("fork_and_knife", 0x1F374),
   ("fortune_cookie", 0x1F960), ("fountain", 0x26F2), ("four_leaf_clover", 0x1F340),
   ("fox_face", 0x1F98A), ("free", 0x1F193), ("freezing_face", 0x1F976),
   ("french_fries", 0x1F35F), ("fried_shrimp", 0x1F364), ("fries", 0x1F35F), ("frog", 0x1F438),
   ("frog_face", 0x1F438), ("front-facing_baby_chick", 0x1F425), ("frowning", 0x1F626),
   ("frowning_face_with_open_mouth", 0x1F626), ("fuel_pump", 0x26FD), ("fuelpump", 0x26FD),
   ("full_moon_symbol", 0x1F315), ("full_moon_with_face", 0x1F31D), ("game_die", 0x1F3B2),
   ("garlic", 0x1F9C4), ("gem", 0x1F48E), ("gem_stone", 0x1F48E), ("gemini", 0x264A),
   ("genie", 0x1F9DE), ("ghost", 0x1F47B), ("gift", 0x1F381), ("giraffe_face", 0x1F992),
   ("girl", 0x1F467), ("glass_of_milk", 0x1F95B), ("globe_with_meridians", 0x1F310),
   ("gloves", 0x1F9E4), ("glowing_star", 0x1F31F), ("goal_net", 0x1F945), ("goat", 0x1F410),
   ("goggles", 0x1F97D), ("golf", 0x26F3), ("gorilla", 0x1F98D), ("graduation_cap", 0x1F393),
   ("grapes", 0x1F347), ("green_apple", 0x1F34F), ("green_book", 0x1F4D7),
   ("green_heart", 0x1F49A), ("green_salad", 0x1F957), ("grey_exclamation", 0x2755),
   ("grey_question", 0x2754), ("grimacing", 0x1F62C), ("grimacing_face", 0x1F62C),
   ("grin", 0x1F601), ("grinning", 0x1F600), ("grinning_cat_face_with_smiling_eyes", 0x1F638),
   ("grinning_face", 0x1F600), ("grinning_face_with_one_large_and_one_small_eye", 0x1F92A),
   ("grinning_face_with_smiling_eyes", 0x1F601), ("grinning_face_with_star_eyes", 0x1F929),
   ("growing_heart", 0x1F497), ("guardsman", 0x1F482), ("guide_dog", 0x1F9AE),
   ("guitar", 0x1F3B8), ("gun", 0x1F52B), ("haircut", 0x1F487), ("hamburger", 0x1F354),
   ("hammer", 0x1F528), ("hamsa", 0x1FAAC), ("hamster", 0x1F439), ("hamster_face", 0x1F439),
   ("hand", 0x270B), ("hand_with_index_and_middle_fingers_crossed", 0x1F91E),
   ("hand_with_index_finger_and_thumb_crossed", 0x1FAF0), ("handbag", 0x1F45C),
   ("handball", 0x1F93E), ("handshake", 0x1F91D), ("hankey", 0x1F4A9),
   ("happy_person_raising_one_hand", 0x1F64B), ("hash", 0x23), ("hatching_chick", 0x1F423),
   ("headphone", 0x1F3A7), ("headphones", 0x1F3A7), ("headstone", 0x1FAA6),
   ("hear-no-evil_monkey", 0x1F649), ("heart", 0x2764), ("heart_decoration", 0x1F49F),
   ("heart_eyes", 0x1F60D), ("heart_hands", 0x1FAF6), ("heart_with_arrow", 0x1F498),
   ("heart_with_ribbon", 0x1F49D), ("heartbeat", 0x1F493), ("hearts", 0x2665),
   ("heavy_check_mark", 0x2714), ("heavy_division_sign", 0x2797), ("heavy_dollar_sign", 0x1F4B2),
   ("heavy_equals_sign", 0x1F7F0), ("heavy_exclamation_mark_symbol", 0x2757),
   ("heavy_large_circle", 0x2B55), ("heavy_minus_sign", 0x2796),
   ("heavy_multiplication_x", 0x2716), ("heavy_plus_sign", 0x2795), ("hedgehog", 0x1F994),
   ("helicopter", 0x1F681), ("herb", 0x1F33F), ("hibiscus", 0x1F33A),
   ("high-heeled_shoe", 0x1F460), ("high-speed_train", 0x1F684),
   ("high-speed_train_with_bullet_nose", 0x1F685), ("high_brightness_symbol", 0x1F506),
   ("high_voltage_sign", 0x26A1), ("hiking_boot", 0x1F97E), ("hindu_temple", 0x1F6D5),
   ("hippopotamus", 0x1F99B), ("hocho", 0x1F52A), ("honey_pot", 0x1F36F), ("honeybee", 0x1F41D),
   ("hook", 0x1FA9D), ("horizontal_traffic_light", 0x1F6A5), ("horse", 0x1F434),
   ("horse_face", 0x1F434), ("horse_racing", 0x1F3C7), ("hospital", 0x1F3E5),
   ("hot_beverage", 0x2615)]

private def pictographsPart5 : List (String × Nat) :=
  [("hot_dog", 0x1F32D), ("hotel", 0x1F3E8), ("hourglass", 0x231B),
   ("hourglass_with_flowing_sand", 0x23F3), ("house", 0x1F3E0), ("house_building", 0x1F3E0),
   ("house_with_garden", 0x1F3E1), ("hugging_face", 0x1F917), ("hundred_points_symbol", 0x1F4AF),
   ("hushed", 0x1F62F), ("hushed_face", 0x1F62F), ("hut", 0x1F6D6),
   ("i_love_you_hand_sign", 0x1F91F), ("ice_cream", 0x1F368), ("ice_cube", 0x1F9CA),
   ("ice_hockey_stick_and_puck", 0x1F3D2), ("id", 0x1F194), ("identification_card", 0x1FAAA),
   ("imp", 0x1F47F), ("inbox_tray", 0x1F4E5), ("incoming_envelope", 0x1F4E8),
   ("index_pointing_at_the_viewer", 0x1FAF5), ("information_desk_person", 0x1F481),
   ("information_source", 0x2139), ("innocent", 0x1F607),
   ("input_symbol_for_latin_capital_letters", 0x1F520),
   ("input_symbol_for_latin_letters", 0x1F524), ("input_symbol_for_latin_small_letters", 0x1F521),
   ("input_symbol_for_numbers", 0x1F522), ("input_symbol_for_symbols", 0x1F523),
   ("interrobang", 0x2049), ("iphone", 0x1F4F1), ("izakaya_lantern", 0x1F3EE),
   ("jack-o-lantern", 0x1F383), ("jack_o_lantern", 0x1F383), ("japanese_castle", 0x1F3EF),
   ("japanese_dolls", 0x1F38E), ("japanese_goblin", 0x1F47A), ("japanese_ogre", 0x1F479),
   ("japanese_post_office", 0x1F3E3), ("japanese_symbol_for_beginner", 0x1F530), ("jar", 0x1FAD9),
   ("jeans", 0x1F456), ("jigsaw_puzzle_piece", 0x1F9E9), ("joy", 0x1F602), ("juggling", 0x1F939),
   ("kaaba", 0x1F54B), ("kangaroo", 0x1F998), ("key", 0x1F511), ("keycap_ten", 0x1F51F),
   ("kimono", 0x1F458), ("kiss", 0x1F48B), ("kiss_mark", 0x1F48B), ("kissing", 0x1F617),
   ("kissing_cat_face_with_closed_eyes", 0x1F63D), ("kissing_face", 0x1F617),
   ("kissing_face_with_closed_eyes", 0x1F61A), ("kissing_face_with_smiling_eyes", 0x1F619),
   ("kite", 0x1FA81), ("kiwifruit", 0x1F95D), ("kneeling_person", 0x1F9CE), ("knife", 0x1F52A),
   ("knot", 0x1FAA2), ("koala", 0x1F428), ("lab_coat", 0x1F97C), ("label", 0x1F3F7),
   ("lacrosse_stick_and_ball", 0x1F94D), ("ladder", 0x1FA9C), ("lady_beetle", 0x1F41E),
   ("large_blue_circle", 0x1F535), ("large_blue_diamond", 0x1F537),
   ("large_blue_square", 0x1F7E6), ("large_brown_circle", 0x1F7E4),
   ("large_brown_square", 0x1F7EB), ("large_green_circle", 0x1F7E2),
   ("large_green_square", 0x1F7E9), ("large_orange_circle", 0x1F7E0),
   ("large_orange_diamond", 0x1F536), ("large_orange_square", 0x1F7E7),
   ("large_purple_circle", 0x1F7E3), ("large_purple_square", 0x1F7EA),
   ("large_red_circle", 0x1F534), ("large_red_square", 0x1F7E5), ("large_yellow_circle", 0x1F7E1),
   ("large_yellow_square", 0x1F7E8), ("last_quarter_moon_symbol", 0x1F317),
   ("last_quarter_moon_with_face", 0x1F31C), ("laughing", 0x1F606),
   ("leaf_fluttering_in_wind", 0x1F343), ("leafy_green", 0x1F96C), ("leaves", 0x1F343),
   ("ledger", 0x1F4D2), ("left-facing_fist", 0x1F91B),
   ("left-pointing_magnifying_glass", 0x1F50D), ("left_luggage", 0x1F6C5),
   ("leftwards_hand", 0x1FAF2), ("leg", 0x1F9B5), ("lemon", 0x1F34B), ("leo", 0x264C),
   ("leopard", 0x1F406), ("libra", 0x264E), ("light_bulb", 0x1F4A1), ("light_rail", 0x1F688),
   ("link", 0x1F517), ("link_symbol", 0x1F517), ("lion_face", 0x1F981), ("lips", 0x1F444),
   ("lipstick", 0x1F484), ("lizard", 0x1F98E), ("llama", 0x1F999), ("lobster", 0x1F99E),
   ("lock", 0x1F512), ("lock_with_ink_pen", 0x1F50F), ("locked", 0x1F512), ("lollipop", 0x1F36D),
   ("long_drum", 0x1FA98), ("loop", 0x27BF), ("lotion_bottle", 0x1F9F4), ("lotus", 0x1FAB7),
   ("loudly_crying_face", 0x1F62D), ("loudspeaker", 0x1F4E2), ("love_hotel", 0x1F3E9),
   ("love_letter", 0x1F48C), ("low_battery", 0x1FAAB), ("low_brightness_symbol", 0x1F505),
   ("luggage", 0x1F9F3), ("lungs", 0x1FAC1), ("lying_face", 0x1F925), ("m", 0x24C2),
   ("mag", 0x1F50D), ("mag_right", 0x1F50E), ("mage", 0x1F9D9), ("magic_wand", 0x1FA84),
   ("magnet", 0x1F9F2), ("mailbox", 0x1F4EB), ("mammoth", 0x1F9A3), ("man", 0x1F468),
   ("man_and_woman_holding_hands", 0x1F46B), ("man_dancing", 0x1F57A), ("man_in_tuxedo", 0x1F935),
   ("man_with_gua_pi_mao", 0x1F472), ("man_with_turban", 0x1F473), ("mango", 0x1F96D),
   ("mans_shoe", 0x1F45E), ("manual_wheelchair", 0x1F9BD), ("maple_leaf", 0x1F341),
   ("martial_arts_uniform", 0x1F94B), ("mask", 0x1F637), ("mate_drink", 0x1F9C9),
   ("meat_on_bone", 0x1F356)]

private def pictographsPart6 : List (String × Nat) :=
  [("mechanical_arm", 0x1F9BE), ("mechanical_leg", 0x1F9BF), ("medium_black_circle", 0x26AB),
   ("medium_white_circle", 0x26AA), ("mega", 0x1F4E3), ("melon", 0x1F348),
   ("melting_face", 0x1FAE0), ("memo", 0x1F4DD), ("menorah_with_nine_branches", 0x1F54E),
   ("mens_symbol", 0x1F6B9), ("merperson", 0x1F9DC), ("metro", 0x1F687), ("microbe", 0x1F9A0),
   ("microphone", 0x1F3A4), ("microscope", 0x1F52C), ("military_helmet", 0x1FA96),
   ("milky_way", 0x1F30C), ("minibus", 0x1F690), ("minidisc", 0x1F4BD), ("mirror", 0x1FA9E),
   ("mirror_ball", 0x1FAA9), ("mobile_phone", 0x1F4F1), ("mobile_phone_off", 0x1F4F4),
   ("mobile_phone_with_rightwards_arrow_at_left", 0x1F4F2), ("money-mouth_face", 0x1F911),
   ("money_bag", 0x1F4B0), ("money_with_wings", 0x1F4B8), ("moneybag", 0x1F4B0),
   ("monkey", 0x1F412), ("monkey_face", 0x1F435), ("monorail", 0x1F69D), ("moon", 0x1F314),
   ("moon_cake", 0x1F96E), ("moon_viewing_ceremony", 0x1F391), ("mosque", 0x1F54C),
   ("mosquito", 0x1F99F), ("mother_christmas", 0x1F936), ("motor_scooter", 0x1F6F5),
   ("motorized_wheelchair", 0x1F9BC), ("mount_fuji", 0x1F5FB), ("mountain_bicyclist", 0x1F6B5),
   ("mountain_cableway", 0x1F6A0), ("mountain_railway", 0x1F69E), ("mouse", 0x1F42D),
   ("mouse_face", 0x1F42D), ("mouse_trap", 0x1FAA4), ("mouth", 0x1F444),
   ("movie_camera", 0x1F3A5), ("moyai", 0x1F5FF), ("multiple_musical_notes", 0x1F3B6),
   ("muscle", 0x1F4AA), ("mushroom", 0x1F344), ("musical_keyboard", 0x1F3B9),
   ("musical_note", 0x1F3B5), ("musical_score", 0x1F3BC), ("mute", 0x1F507),
   ("nail_care", 0x1F485), ("nail_polish", 0x1F485), ("name_badge", 0x1F4DB),
   ("nauseated_face", 0x1F922), ("nazar_amulet", 0x1F9FF), ("necktie", 0x1F454),
   ("negative_squared_cross_mark", 0x274E), ("nerd_face", 0x1F913), ("nest_with_eggs", 0x1FABA),
   ("nesting_dolls", 0x1FA86), ("neutral_face", 0x1F610), ("new", 0x1F195),
   ("new_moon_symbol", 0x1F311), ("new_moon_with_face", 0x1F31A), ("newspaper", 0x1F4F0),
   ("ng", 0x1F196), ("night_with_stars", 0x1F303), ("ninja", 0x1F977), ("no_bicycles", 0x1F6B3),
   ("no_entry", 0x26D4), ("no_entry_sign", 0x1F6AB), ("no_good", 0x1F645),
   ("no_mobile_phones", 0x1F4F5), ("no_one_under_eighteen_symbol", 0x1F51E),
   ("no_pedestrians", 0x1F6B7), ("no_smoking_symbol", 0x1F6AD),
   ("non-potable_water_symbol", 0x1F6B1), ("nose", 0x1F443), ("notebook", 0x1F4D3),
   ("notebook_with_decorative_cover", 0x1F4D4), ("notes", 0x1F3B6), ("nut_and_bolt", 0x1F529),
   ("o", 0x2B55), ("o2", 0x1F17E), ("ocean", 0x1F30A), ("octagonal_sign", 0x1F6D1),
   ("octopus", 0x1F419), ("oden", 0x1F362), ("office_building", 0x1F3E2), ("ok", 0x1F197),
   ("ok_hand", 0x1F44C), ("ok_hand_sign", 0x1F44C), ("older_adult", 0x1F9D3),
   ("older_man", 0x1F474), ("older_woman", 0x1F475), ("olive", 0x1FAD2), ("on", 0x1F51B),
   ("on_with_exclamation_mark_with_left_right_arrow_above", 0x1F51B),
   ("oncoming_automobile", 0x1F698), ("oncoming_bus", 0x1F68D), ("oncoming_police_car", 0x1F694),
   ("oncoming_taxi", 0x1F696), ("one-piece_swimsuit", 0x1FA71), ("onion", 0x1F9C5),
   ("open_book", 0x1F4D6), ("open_file_folder", 0x1F4C2), ("open_hands_sign", 0x1F450),
   ("open_lock", 0x1F513), ("open_mailbox_with_lowered_flag", 0x1F4ED),
   ("open_mailbox_with_raised_flag", 0x1F4EC), ("open_mouth", 0x1F62E), ("ophiuchus", 0x26CE),
   ("optical_disc", 0x1F4BF), ("orange", 0x1F34A), ("orange_book", 0x1F4D9),
   ("orange_heart", 0x1F9E1), ("orangutan", 0x1F9A7), ("otter", 0x1F9A6),
   ("outbox_tray", 0x1F4E4), ("overheated_face", 0x1F975), ("owl", 0x1F989), ("ox", 0x1F402),
   ("oyster", 0x1F9AA), ("package", 0x1F4E6), ("page_facing_up", 0x1F4C4),
   ("page_with_curl", 0x1F4C3), ("pager", 0x1F4DF), ("palm_down_hand", 0x1FAF3),
   ("palm_tree", 0x1F334), ("palm_up_hand", 0x1FAF4), ("palms_up_together", 0x1F932),
   ("pancakes", 0x1F95E), ("panda_face", 0x1F43C), ("paperclip", 0x1F4CE), ("parachute", 0x1FA82),
   ("parking", 0x1F17F), ("parrot", 0x1F99C), ("party_popper", 0x1F389),
   ("passport_control", 0x1F6C2), ("paw_prints", 0x1F43E), ("peach", 0x1F351),
   ("peacock", 0x1F99A), ("peanuts", 0x1F95C), ("pear", 0x1F350)]

private def pictographsPart7 : List (String × Nat) :=
  [("pedestrian", 0x1F6B6), ("pencil", 0x1F4DD), ("pencil2", 0x270F), ("penguin", 0x1F427),
   ("pensive", 0x1F614), ("pensive_face", 0x1F614), ("people_hugging", 0x1FAC2),
   ("performing_arts", 0x1F3AD), ("persevering_face", 0x1F623), ("person_bowing_deeply", 0x1F647),
   ("person_climbing", 0x1F9D7), ("person_doing_cartwheel", 0x1F938),
   ("person_frowning", 0x1F64D), ("person_in_lotus_position", 0x1F9D8),
   ("person_in_steamy_room", 0x1F9D6), ("person_raising_both_hands_in_celebration", 0x1F64C),
   ("person_with_blond_hair", 0x1F471), ("person_with_crown", 0x1FAC5),
   ("person_with_folded_hands", 0x1F64F), ("person_with_headscarf", 0x1F9D5),
   ("person_with_pouting_face", 0x1F64E), ("personal_computer", 0x1F4BB), ("petri_dish", 0x1F9EB),
   ("phone", 0x260E), ("pickup_truck", 0x1F6FB), ("pie", 0x1F967), ("pig", 0x1F437),
   ("pig_face", 0x1F437), ("pig_nose", 0x1F43D), ("pile_of_poo", 0x1F4A9), ("pill", 0x1F48A),
   ("pinata", 0x1FA85), ("pinched_fingers", 0x1F90C), ("pinching_hand", 0x1F90F),
   ("pine_decoration", 0x1F38D), ("pineapple", 0x1F34D), ("pisces", 0x2653), ("pistol", 0x1F52B),
   ("pizza", 0x1F355), ("placard", 0x1FAA7), ("place_of_worship", 0x1F6D0),
   ("playground_slide", 0x1F6DD), ("plunger", 0x1FAA0), ("point_down", 0x1F447),
   ("point_left", 0x1F448), ("point_right", 0x1F449), ("point_up", 0x261D),
   ("police_car", 0x1F693), ("police_cars_revolving_light", 0x1F6A8), ("police_officer", 0x1F46E),
   ("poodle", 0x1F429), ("poop", 0x1F4A9), ("popcorn", 0x1F37F), ("postal_horn", 0x1F4EF),
   ("postbox", 0x1F4EE), ("pot_of_food", 0x1F372), ("potable_water_symbol", 0x1F6B0),
   ("potato", 0x1F954), ("potted_plant", 0x1FAB4), ("pouch", 0x1F45D), ("poultry_leg", 0x1F357),
   ("pouring_liquid", 0x1FAD7), ("pouting_cat_face", 0x1F63E), ("pouting_face", 0x1F621),
   ("pray", 0x1F64F), ("prayer_beads", 0x1F4FF), ("pregnant_man", 0x1FAC3),
   ("pregnant_person", 0x1FAC4), ("pregnant_woman", 0x1F930), ("pretzel", 0x1F968),
   ("prince", 0x1F934), ("princess", 0x1F478), ("probing_cane", 0x1F9AF),
   ("public_address_loudspeaker", 0x1F4E2), ("punch", 0x1F44A), ("purple_heart", 0x1F49C),
   ("purse", 0x1F45B), ("pushpin", 0x1F4CC), ("put_litter_in_its_place_symbol", 0x1F6AE),
   ("question", 0x2753), ("rabbit", 0x1F430), ("rabbit_face", 0x1F430), ("raccoon", 0x1F99D),
   ("radio", 0x1F4FB), ("radio_button", 0x1F518), ("rage", 0x1F621), ("railway_car", 0x1F683),
   ("rainbow", 0x1F308), ("raised_back_of_hand", 0x1F91A), ("raised_fist", 0x270A),
   ("raised_hand", 0x270B), ("raised_hand_with_part_between_middle_and_ring_fingers", 0x1F596),
   ("raised_hands", 0x1F64C), ("ram", 0x1F40F), ("rat", 0x1F400), ("razor", 0x1FA92),
   ("receipt", 0x1F9FE), ("recreational_vehicle", 0x1F699), ("recycle", 0x267B),
   ("red_apple", 0x1F34E), ("red_gift_envelope", 0x1F9E7), ("red_heart", 0x2764),
   ("registered", 0xAE), ("relaxed", 0x263A), ("relieved", 0x1F60C), ("relieved_face", 0x1F60C),
   ("repeat", 0x1F501), ("restroom", 0x1F6BB),
   ("reversed_hand_with_middle_finger_extended", 0x1F595), ("revolving_hearts", 0x1F49E),
   ("rhinoceros", 0x1F98F), ("ribbon", 0x1F380), ("rice", 0x1F35A), ("rice_ball", 0x1F359),
   ("rice_cracker", 0x1F358), ("right-facing_fist", 0x1F91C),
   ("right-pointing_magnifying_glass", 0x1F50E), ("rightwards_hand", 0x1FAF1), ("ring", 0x1F48D),
   ("ring_buoy", 0x1F6DF), ("ringed_planet", 0x1FA90), ("roasted_sweet_potato", 0x1F360),
   ("robot", 0x1F916), ("robot_face", 0x1F916), ("rock", 0x1FAA8), ("rocket", 0x1F680),
   ("roll_of_paper", 0x1F9FB), ("roller_coaster", 0x1F3A2), ("roller_skate", 0x1F6FC),
   ("rolling_on_the_floor_laughing", 0x1F923), ("rooster", 0x1F413), ("rose", 0x1F339),
   ("rotating_light", 0x1F6A8), ("round_pushpin", 0x1F4CD), ("rowboat", 0x1F6A3),
   ("rugby_football", 0x1F3C9), ("runner", 0x1F3C3), ("running", 0x1F3C3),
   ("running_shirt_with_sash", 0x1F3BD), ("safety_pin", 0x1F9F7), ("safety_vest", 0x1F9BA),
   ("sagittarius", 0x2650), ("sailboat", 0x26F5), ("sake_bottle_and_cup", 0x1F376),
   ("salt_shaker", 0x1F9C2), ("saluting_face", 0x1FAE1), ("sandwich", 0x1F96A),
   ("santa", 0x1F385), ("sari", 0x1F97B), ("satellite", 0x1F4E1)]

private def pictographsPart8 : List (String × Nat) :=
  [("satellite_antenna", 0x1F4E1), ("satisfied", 0x1F606), ("sauropod", 0x1F995),
   ("saxophone", 0x1F3B7), ("scarf", 0x1F9E3), ("school", 0x1F3EB), ("school_satchel", 0x1F392),
   ("scissors", 0x2702), ("scooter", 0x1F6F4), ("scorpion", 0x1F982), ("scorpius", 0x264F),
   ("scream", 0x1F631), ("screwdriver", 0x1FA9B), ("scroll", 0x1F4DC), ("seal", 0x1F9AD),
   ("seat", 0x1F4BA), ("second_place_medal", 0x1F948), ("see-no-evil_monkey", 0x1F648),
   ("seedling", 0x1F331), ("selfie", 0x1F933),
   ("serious_face_with_symbols_covering_mouth", 0x1F92C), ("sewing_needle", 0x1FAA1),
   ("shallow_pan_of_food", 0x1F958), ("shark", 0x1F988), ("shaved_ice", 0x1F367),
   ("sheep", 0x1F411), ("shell", 0x1F41A), ("ship", 0x1F6A2), ("shirt", 0x1F455),
   ("shit", 0x1F4A9), ("shocked_face_with_exploding_head", 0x1F92F), ("shoe", 0x1F45E),
   ("shooting_star", 0x1F320), ("shopping_trolley", 0x1F6D2), ("shortcake", 0x1F370),
   ("shorts", 0x1FA73), ("shower", 0x1F6BF), ("shrimp", 0x1F990), ("shrug", 0x1F937),
   ("sign_of_the_horns", 0x1F918), ("silhouette_of_japan", 0x1F5FE),
   ("six_pointed_star_with_middle_dot", 0x1F52F), ("skateboard", 0x1F6F9),
   ("ski_and_ski_boot", 0x1F3BF), ("skull", 0x1F480), ("skunk", 0x1F9A8), ("sled", 0x1F6F7),
   ("sleeping", 0x1F634), ("sleeping_accommodation", 0x1F6CC), ("sleeping_face", 0x1F634),
   ("sleeping_symbol", 0x1F4A4), ("sleepy", 0x1F62A), ("sleepy_face", 0x1F62A),
   ("slice_of_pizza", 0x1F355), ("slightly_frowning_face", 0x1F641),
   ("slightly_smiling_face", 0x1F642), ("slot_machine", 0x1F3B0), ("sloth", 0x1F9A5),
   ("small_blue_diamond", 0x1F539), ("small_orange_diamond", 0x1F538), ("smile", 0x1F604),
   ("smiley", 0x1F603), ("smiling_cat_face_with_heart-shaped_eyes", 0x1F63B),
   ("smiling_cat_face_with_open_mouth", 0x1F63A), ("smiling_face", 0x263A),
   ("smiling_face_with_halo", 0x1F607), ("smiling_face_with_heart-shaped_eyes", 0x1F60D),
   ("smiling_face_with_horns", 0x1F608), ("smiling_face_with_open_mouth", 0x1F603),
   ("smiling_face_with_open_mouth_and_cold_sweat", 0x1F605),
   ("smiling_face_with_open_mouth_and_smiling_eyes", 0x1F604),
   ("smiling_face_with_open_mouth_and_tightly-closed_eyes", 0x1F606),
   ("smiling_face_with_smiling_eyes", 0x1F60A),
   ("smiling_face_with_smiling_eyes_and_hand_covering_mouth", 0x1F92D),
   ("smiling_face_with_smiling_eyes_and_three_hearts", 0x1F970),
   ("smiling_face_with_sunglasses", 0x1F60E), ("smiling_face_with_tear", 0x1F972),
   ("smirk", 0x1F60F), ("smirking_face", 0x1F60F), ("smoking", 0x1F6AC),
   ("smoking_symbol", 0x1F6AC), ("snail", 0x1F40C), ("snake", 0x1F40D),
   ("sneezing_face", 0x1F927), ("snowboarder", 0x1F3C2), ("snowflake", 0x2744),
   ("snowman", 0x2603), ("snowman_without_snow", 0x26C4), ("sob", 0x1F62D), ("soccer", 0x26BD),
   ("soccer_ball", 0x26BD), ("socks", 0x1F9E6), ("soft_ice_cream", 0x1F366),
   ("softball", 0x1F94E), ("soon", 0x1F51C), ("soon_with_rightwards_arrow_above", 0x1F51C),
   ("sos", 0x1F198), ("sound", 0x1F509), ("spades", 0x2660), ("spaghetti", 0x1F35D),
   ("sparkle", 0x2747), ("sparkles", 0x2728), ("sparkling_heart", 0x1F496),
   ("speak-no-evil_monkey", 0x1F64A), ("speak_no_evil", 0x1F64A), ("speaker", 0x1F508),
   ("speaker_with_cancellation_stroke", 0x1F507), ("speaker_with_one_sound_wave", 0x1F509),
   ("speaker_with_three_sound_waves", 0x1F50A), ("speech_balloon", 0x1F4AC),
   ("speedboat", 0x1F6A4), ("spiral_shell", 0x1F41A), ("splashing_sweat_symbol", 0x1F4A6),
   ("sponge", 0x1F9FD), ("spool_of_thread", 0x1F9F5), ("spoon", 0x1F944),
   ("sports_medal", 0x1F3C5), ("spouting_whale", 0x1F433), ("squid", 0x1F991),
   ("standing_person", 0x1F9CD), ("star", 0x2B50), ("star2", 0x1F31F), ("stars", 0x1F320),
   ("station", 0x1F689), ("statue_of_liberty", 0x1F5FD), ("steam_locomotive", 0x1F682),
   ("steaming_bowl", 0x1F35C), ("stethoscope", 0x1FA7A), ("stop_sign", 0x1F6D1),
   ("stopwatch", 0x23F1), ("straight_ruler", 0x1F4CF), ("strawberry", 0x1F353),
   ("stuck_out_tongue", 0x1F61B), ("stuffed_flatbread", 0x1F959), ("sun", 0x2600),
   ("sun_behind_cloud", 0x26C5), ("sun_with_face", 0x1F31E), ("sunflower", 0x1F33B),
   ("sunglasses", 0x1F60E), ("sunny", 0x2600), ("sunrise", 0x1F305),
   ("sunrise_over_mountains", 0x1F304), ("sunset_over_buildings", 0x1F307),
   ("superhero", 0x1F9B8), ("supervillain", 0x1F9B9), ("surfer", 0x1F3C4), ("sushi", 0x1F363),
   ("suspension_railway", 0x1F69F), ("swan", 0x1F9A2), ("sweat", 0x1F613)]

private def pictographsPart9 : List (String × Nat) :=
  [("sweat_drops", 0x1F4A6), ("sweat_smile", 0x1F605), ("swimmer", 0x1F3CA),
   ("synagogue", 0x1F54D), ("syringe", 0x1F489), ("t-rex", 0x1F996), ("t-shirt", 0x1F455),
   ("table_tennis_paddle_and_ball", 0x1F3D3), ("taco", 0x1F32E), ("tada", 0x1F389),
   ("takeout_box", 0x1F961), ("tamale", 0x1FAD4), ("tanabata_tree", 0x1F38B),
   ("tangerine", 0x1F34A), ("taurus", 0x2649), ("taxi", 0x1F695), ("tea", 0x1F375),
   ("teacup_without_handle", 0x1F375), ("teapot", 0x1FAD6), ("tear-off_calendar", 0x1F4C6),
   ("teddy_bear", 0x1F9F8), ("telephone", 0x260E), ("telephone_receiver", 0x1F4DE),
   ("telescope", 0x1F52D), ("television", 0x1F4FA), ("tennis", 0x1F3BE),
   ("tennis_racquet_and_ball", 0x1F3BE), ("tent", 0x26FA), ("test_tube", 0x1F9EA),
   ("thinking_face", 0x1F914), ("third_place_medal", 0x1F949), ("thong_sandal", 0x1FA74),
   ("thought_balloon", 0x1F4AD), ("thumbs_down", 0x1F44E), ("thumbs_down_sign", 0x1F44E),
   ("thumbs_up", 0x1F44D), ("thumbs_up_sign", 0x1F44D), ("thumbsdown", 0x1F44E),
   ("thumbsup", 0x1F44D), ("ticket", 0x1F3AB), ("tiger", 0x1F42F), ("tiger_face", 0x1F42F),
   ("tired_face", 0x1F62B), ("tm", 0x2122), ("toilet", 0x1F6BD), ("tokyo_tower", 0x1F5FC),
   ("tomato", 0x1F345), ("tongue", 0x1F445), ("toolbox", 0x1F9F0), ("tooth", 0x1F9B7),
   ("toothbrush", 0x1FAA5), ("top", 0x1F51D), ("top_hat", 0x1F3A9),
   ("top_with_upwards_arrow_above", 0x1F51D), ("tractor", 0x1F69C), ("train", 0x1F68B),
   ("tram", 0x1F68A), ("tram_car", 0x1F68B), ("tree", 0x1F333),
   ("triangular_flag_on_post", 0x1F6A9), ("triangular_ruler", 0x1F4D0),
   ("trident_emblem", 0x1F531), ("triumph", 0x1F624), ("troll", 0x1F9CC), ("trolleybus", 0x1F68E),
   ("trophy", 0x1F3C6), ("tropical_drink", 0x1F379), ("tropical_fish", 0x1F420),
   ("truck", 0x1F69A), ("trumpet", 0x1F3BA), ("tulip", 0x1F337), ("tumbler_glass", 0x1F943),
   ("turkey", 0x1F983), ("turtle", 0x1F422), ("tv", 0x1F4FA),
   ("twisted_rightwards_arrows", 0x1F500), ("two_hearts", 0x1F495),
   ("two_men_holding_hands", 0x1F46C), ("two_women_holding_hands", 0x1F46D), ("umbrella", 0x2614),
   ("umbrella_with_rain_drops", 0x2614), ("unamused", 0x1F612), ("unamused_face", 0x1F612),
   ("underage", 0x1F51E), ("unicorn", 0x1F984), ("unicorn_face", 0x1F984), ("unlock", 0x1F513),
   ("unlocked", 0x1F513), ("up", 0x1F199), ("up-pointing_red_triangle", 0x1F53A),
   ("up-pointing_small_red_triangle", 0x1F53C), ("upside-down_face", 0x1F643), ("v", 0x270C),
   ("vampire", 0x1F9DB), ("vertical_traffic_light", 0x1F6A6), ("vibration_mode", 0x1F4F3),
   ("video_camera", 0x1F4F9), ("video_game", 0x1F3AE), ("videocassette", 0x1F4FC),
   ("violin", 0x1F3BB), ("virgo", 0x264D), ("volcano", 0x1F30B), ("volleyball", 0x1F3D0),
   ("vs", 0x1F19A), ("waffle", 0x1F9C7), ("walking", 0x1F6B6),
   ("waning_crescent_moon_symbol", 0x1F318), ("waning_gibbous_moon_symbol", 0x1F316),
   ("warning", 0x26A0), ("watch", 0x231A), ("water_buffalo", 0x1F403), ("water_closet", 0x1F6BE),
   ("water_polo", 0x1F93D), ("water_wave", 0x1F30A), ("watermelon", 0x1F349), ("wave", 0x1F44B),
   ("waving_black_flag", 0x1F3F4), ("waving_hand_sign", 0x1F44B),
   ("waxing_crescent_moon_symbol", 0x1F312), ("waxing_gibbous_moon_symbol", 0x1F314),
   ("weary", 0x1F629), ("weary_cat_face", 0x1F640), ("weary_face", 0x1F629), ("wedding", 0x1F492),
   ("whale", 0x1F433), ("wheel", 0x1F6DE), ("wheelchair", 0x267F), ("wheelchair_symbol", 0x267F),
   ("white_check_mark", 0x2705), ("white_down_pointing_backhand_index", 0x1F447),
   ("white_exclamation_mark_ornament", 0x2755), ("white_flower", 0x1F4AE),
   ("white_heart", 0x1F90D), ("white_heavy_check_mark", 0x2705), ("white_large_square", 0x2B1C),
   ("white_left_pointing_backhand_index", 0x1F448), ("white_medium_star", 0x2B50),
   ("white_question_mark_ornament", 0x2754), ("white_right_pointing_backhand_index", 0x1F449),
   ("white_square_button", 0x1F533), ("white_up_pointing_backhand_index", 0x1F446),
   ("wilted_flower", 0x1F940), ("wind_chime", 0x1F390), ("window", 0x1FA9F),
   ("wine_glass", 0x1F377), ("wink", 0x1F609), ("winking_face", 0x1F609), ("wolf", 0x1F43A),
   ("wolf_face", 0x1F43A), ("woman", 0x1F469)]

private def pictographsPart10 : List (String × Nat) :=
  [("woman_with_bunny_ears", 0x1F46F), ("womans_boots", 0x1F462), ("womans_clothes", 0x1F45A),
   ("womans_hat", 0x1F452), ("womans_sandal", 0x1F461), ("womens_symbol", 0x1F6BA),
   ("wood", 0x1FAB5), ("worm", 0x1FAB1), ("worried", 0x1F61F), ("worried_face", 0x1F61F),
   ("wrapped_present", 0x1F381), ("wrench", 0x1F527), ("wrestlers", 0x1F93C), ("x", 0x274C),
   ("x-ray", 0x1FA7B), ("yawning_face", 0x1F971), ("yellow_heart", 0x1F49B), ("yen", 0x1F4B4),
   ("yo-yo", 0x1FA80), ("yum", 0x1F60B), ("zap", 0x26A1), ("zebra_face", 0x1F993),
   ("zipper-mouth_face", 0x1F910), ("zombie", 0x1F9DF), ("zzz", 0x1F4A4)]

def pictographs : List (String × Nat) :=
  pictographsPart1 ++ pictographsPart2 ++ pictographsPart3 ++ pictographsPart4 ++
    pictographsPart5 ++ pictographsPart6 ++ pictographsPart7 ++ pictographsPart8 ++
    pictographsPart9 ++ pictographsPart10

/-- The characters up to the next colon, with no blank among them, and the rest. -/
def untilColon? (s : List Char) : Option (List Char × List Char) := Text.upTo? ':' Text.isBlank s

/-- A name without the suffix that asks for a presentation, and the selector for that. -/
def splitPresentation (name : List Char) : List Char × List Char :=
  let cut (suffix : String) (selector : Char) : Option (List Char × List Char) :=
    if suffix.toList.isSuffixOf name then
      some (name.take (name.length - suffix.length), [selector])
    else none
  ((cut "-emoji" '\ufe0f').orElse fun _ => cut "-text" '\ufe0e').getD (name, [])

def pictograph? (name : List Char) : Option (List Char) :=
  let (name, selector) := splitPresentation name
  (pictographs.lookup (String.ofList (Text.lower name))).map fun n => Char.ofNat n :: selector

/-- A text with pictographs in place of their names between colons. -/
def showPictographs : (fuel : Nat) → List Char → List Char
  | 0, s => s
  | _, [] => []
  | fuel + 1, ':' :: cs =>
    match untilColon? cs with
    | none => ':' :: showPictographs fuel cs
    | some (name, rest) =>
      ((pictograph? name).getD (':' :: name ++ [':'])) ++ showPictographs fuel rest
  | fuel + 1, c :: cs => c :: showPictographs fuel cs

end Console
end PatchReview
